import AgentBigBrain.Core.OpenLoops

/-!
# Threads of the runtime actions

Runtime actions write threads into the stack directly: a pulse makes sure its thread exists,
and a topic resume makes it the active one.
-/
namespace AgentBigBrain.Core

open AgentBigBrain.Js AgentBigBrain.Lib

/-- `toText`: a trimmed text, unless nothing is left of it. -/
def toText (value : Option String) : Option String :=
  (value.map trim).filter fun trimmed => trimmed ≠ ""

/-- `replace(/[_-]+/g, " ")`, in a run of separators already or not. -/
def spaceSeparatorsFrom (inRun : Bool) : List Char → List Char
  | [] => []
  | c :: cs =>
      if c = '_' || c = '-' then
        if inRun then spaceSeparatorsFrom true cs else ' ' :: spaceSeparatorsFrom true cs
      else c :: spaceSeparatorsFrom false cs

def spaceSeparators (key : String) : String :=
  String.ofList (spaceSeparatorsFrom false key.toList)

def runtimeThread (threadKey observedAt : String) : ThreadFrameV1 where
  threadKey := threadKey
  topicKey := "topic_" ++ threadKey
  topicLabel := spaceSeparators threadKey
  state := .active
  resumeHint := "Resume deterministic continuity follow-up."
  openLoops := []
  lastTouchedAt := observedAt

def runtimeTopic (threadKey observedAt : String) : TopicNodeV1 where
  topicKey := "topic_" ++ threadKey
  label := spaceSeparators threadKey
  firstSeenAt := observedAt
  lastSeenAt := observedAt
  mentionCount := 1

def ensureThread (stack : ConversationStackV1) (threadKey observedAt : String) :
    ConversationStackV1 :=
  if stack.threads.any fun thread => thread.threadKey = threadKey then stack
  else
    { updatedAt := observedAt
      activeThreadKey := some (stack.activeThreadKey.getD threadKey)
      threads := stack.threads ++ [runtimeThread threadKey observedAt]
      topics := stack.topics ++ [runtimeTopic threadKey observedAt] }

/-- The thread an action is about: the one it names, else the active one, else its own. -/
def runtimeThreadKey (stack : ConversationStackV1) (named : Option String) (own : String) : String :=
  (toText named).getD (stack.activeThreadKey.getD own)

def OPEN_LOOP_THREAD_KEY : String := "thread_runtime_open_loop"

def TOPIC_THREAD_KEY : String := "thread_runtime_topic"

/-- What the `topic_resume` pulse does to a thread of the stack. -/
def resumeThread (threadKey observedAt : String) (thread : ThreadFrameV1) : ThreadFrameV1 :=
  if thread.threadKey = threadKey then
    { thread with state := .active, lastTouchedAt := observedAt }
  else
    thread

def topicResume (stack : ConversationStackV1) (threadKey observedAt : String) :
    ConversationStackV1 :=
  let stackWithThread := ensureThread stack threadKey observedAt
  { updatedAt := observedAt
    activeThreadKey := some threadKey
    threads := stackWithThread.threads.map (resumeThread threadKey observedAt)
    topics := stackWithThread.topics }

end AgentBigBrain.Core

import AgentBigBrain.Core.StackInvariant

/-!
# Refreshing a stack with newer turns

A session whose turns are newer than its stack replays all of them over it. The turns the stack
was built from are then counted again, so the refresh agrees with a rebuild only if none of
them had opened a topic.
-/
namespace AgentBigBrain.Core

open AgentBigBrain.Js AgentBigBrain.Lib

variable (platform : Platform) (sha : Sha256)

/-- Two stacks with the same threads, topics and active thread. -/
structure SameTopics (stack other : ConversationStackV1) : Prop where
  threads : stack.threads = other.threads
  topics : stack.topics = other.topics
  activeThreadKey : stack.activeThreadKey = other.activeThreadKey

/-- The stack of a history. -/
def builtFrom (turns : List ConversationStackTurnV1) (updatedAt : String) : ConversationStackV1 :=
  buildConversationStackFromTurnsV1 platform sha turns updatedAt {} none

/-- A turn is newer than the stack, which is when a session refreshes it. -/
def HasNewerTurn (stack : ConversationStackV1) (turns : List ConversationStackTurnV1) : Prop :=
  ∃ latest ∈ latestTurnAt platform turns, latest ≠ "" ∧ textLt stack.updatedAt latest = true

instance (stack : ConversationStackV1) (turns : List ConversationStackTurnV1) :
    Decidable (HasNewerTurn platform stack turns) :=
  inferInstanceAs (Decidable (∃ latest ∈ latestTurnAt platform turns, _))

/-- No dated user turn is confident enough about a topic to open it. -/
def OpensNoTopic (turns : List ConversationStackTurnV1) : Prop :=
  ∀ turn ∈ turns, (platform.dateParse turn.at).isSome → turn.role = .user →
    topicCandidate platform sha {} (normalizeWhitespace turn.text) turn.at = none

variable {platform sha} {stack other : ConversationStackV1}

namespace SameTopics

lemma refl (stack : ConversationStackV1) : SameTopics stack stack := ⟨rfl, rfl, rfl⟩

lemma symm (h : SameTopics stack other) : SameTopics other stack :=
  ⟨h.threads.symm, h.topics.symm, h.activeThreadKey.symm⟩

lemma trans {third : ConversationStackV1} (h : SameTopics stack other)
    (h' : SameTopics other third) : SameTopics stack third :=
  ⟨h.threads.trans h'.threads, h.topics.trans h'.topics,
    h.activeThreadKey.trans h'.activeThreadKey⟩

/-- A turn sees nothing of a stack but its threads, its topics and its active thread. -/
lemma applyTurn_eq (h : SameTopics stack other) (turn : ConversationStackTurnV1) :
    applyTurn platform sha {} stack turn = applyTurn platform sha {} other turn := by
  obtain ⟨time, key, threads, topics⟩ := stack
  obtain ⟨time', key', threads', topics'⟩ := other
  obtain ⟨hthreads, htopics, hkey⟩ := h
  dsimp only at hthreads htopics hkey
  subst hthreads htopics hkey
  have hframe := userTurnFrame_congr platform sha ⟨time, key, threads, topics⟩
    ⟨time', key, threads, topics⟩ rfl rfl turn
  have hactive : currentActiveThread ⟨time, key, threads, topics⟩ =
      currentActiveThread ⟨time', key, threads, topics⟩ := rfl
  unfold applyTurn applyUserTurnToConversationStackV1 applyAssistantTurnToConversationStackV1
  rw [hframe, hactive]
  cases turn.role with
  | user => cases userTurnFrame platform sha {} ⟨time', key, threads, topics⟩ turn <;> rfl
  | assistant => cases currentActiveThread ⟨time', key, threads, topics⟩ <;> rfl

variable (platform sha) in
lemma foldl (h : SameTopics stack other) (turns : List ConversationStackTurnV1) :
    SameTopics (turns.foldl (applyTurn platform sha {}) stack)
      (turns.foldl (applyTurn platform sha {}) other) := by
  cases turns with
  | nil => exact h
  | cons turn turns =>
      rw [List.foldl_cons, List.foldl_cons, h.applyTurn_eq turn]
      exact refl _

end SameTopics

lemma sameTopics_raiseUpdatedAt (stack : ConversationStackV1) (updatedAt : String) :
    SameTopics (raiseUpdatedAt stack updatedAt) stack := by
  unfold raiseUpdatedAt
  split_ifs
  · exact ⟨rfl, rfl, rfl⟩
  · exact SameTopics.refl stack

lemma sameTopics_updatedAt (stack : ConversationStackV1) (updatedAt : String) :
    SameTopics { stack with updatedAt := updatedAt } stack :=
  ⟨rfl, rfl, rfl⟩

variable (platform sha) in
lemma sameTopics_builtFrom (turns : List ConversationStackTurnV1) (updatedAt start : String) :
    SameTopics (builtFrom platform sha turns updatedAt)
      ((orderedTurns platform turns).foldl (applyTurn platform sha {})
        (createEmptyConversationStackV1 start)) := by
  have hempty : SameTopics (createEmptyConversationStackV1 updatedAt)
      (createEmptyConversationStackV1 start) := ⟨rfl, rfl, rfl⟩
  exact (sameTopics_raiseUpdatedAt _ _).trans (hempty.foldl platform sha _)

/-! ## Stacks of a replay -/

variable (platform) in
/-- What a replay from the empty stack keeps. -/
structure Replayed (stack : ConversationStackV1) : Prop where
  sound : StackSound 12 stack
  named : ∀ thread ∈ stack.threads, thread.threadKey ≠ ""
  topicsDistinct : topicsByKey.Distinct stack.topics
  threadsSorted : (threadOrder platform).Sorted stack.threads
  topicsSorted : (topicOrder platform).Sorted stack.topics

lemma Replayed.of_sameTopics (h : Replayed platform stack) (hsame : SameTopics stack other) :
    Replayed platform other where
  sound := by
    have hsound := h.sound
    unfold StackSound at hsound ⊢
    rw [← hsame.threads, ← hsame.activeThreadKey]
    exact hsound
  named := hsame.threads ▸ h.named
  topicsDistinct := hsame.topics ▸ h.topicsDistinct
  threadsSorted := hsame.threads ▸ h.threadsSorted
  topicsSorted := hsame.topics ▸ h.topicsSorted

variable (platform) in
lemma replayed_empty (updatedAt : String) :
    Replayed platform (createEmptyConversationStackV1 updatedAt) where
  sound := ⟨by norm_num [createEmptyConversationStackV1], Or.inl ⟨rfl, rfl⟩⟩
  named := by simp [createEmptyConversationStackV1]
  topicsDistinct := List.nodup_nil
  threadsSorted := List.Pairwise.nil
  topicsSorted := List.Pairwise.nil

/-- The thread that is active is one of the stack's. -/
lemma Replayed.currentActiveThread (h : Replayed platform stack)
    (hactive : stack.activeThreadKey ≠ none) :
    ∃ thread, currentActiveThread stack = some thread := by
  obtain ⟨-, ⟨hnone, -⟩ | ⟨key, hkey, hsound⟩⟩ := h.sound
  · exact absurd hnone hactive
  · obtain ⟨thread, hmem, hthread⟩ := hsound.present
    refine ⟨thread, (currentActiveThread_eq_some_iff hsound.distinct).mpr ⟨?_, ?_, hmem⟩⟩
    · rw [hkey, hthread]
    · exact h.named thread hmem

/-! ## A turn of a replay -/

section Turn

variable (h : Replayed platform stack) (turn : ConversationStackTurnV1)
include h

omit turn in
lemma copyThreadsByKey_of_replayed : copyThreadsByKey stack.threads = stack.threads :=
  threadsByKey.collect_nil_of_distinct h.sound.invariant.distinct

omit h turn in
lemma buildThreadKey_ne_empty (topicKey : String) : buildThreadKey platform sha topicKey ≠ "" := by
  intro hempty
  have hchars := congrArg String.toList hempty
  simp [buildThreadKey] at hchars

omit h turn in
/-- A text returns to a thread of the stack. -/
lemma mem_of_resolveExplicitReturnThread {text : String} {thread : ThreadFrameV1}
    (hreturn : resolveExplicitReturnThread platform stack text = .thread thread) :
    thread ∈ stack.threads := by
  unfold resolveExplicitReturnThread at hreturn
  split_ifs at hreturn
  dsimp only at hreturn
  split at hreturn
  · cases hreturn
  · rename_i hsingle
    cases hreturn
    have hmem := hsingle ▸ List.mem_singleton_self thread
    exact (List.mem_filter.mp (List.mem_filter.mp hmem).1).1
  · cases hreturn

omit turn in
lemma resumedThread_named {text : String} {thread : ThreadFrameV1}
    (hresumed : resumedThread platform stack text = some thread) : thread.threadKey ≠ "" := by
  unfold resumedThread at hresumed
  split at hresumed
  · rename_i found hreturn
    have hmem := mem_of_resolveExplicitReturnThread hreturn
    have hfind : threadsByKey.find found.threadKey stack.threads = some found :=
      threadsByKey.find_eq_some_of_mem h.sound.invariant.distinct hmem
    rw [copyThreadsByKey_of_replayed h, hfind] at hresumed
    cases hresumed
    exact h.named found hmem
  · cases hresumed

lemma userTurnFrame_named {frame : ThreadFrameV1}
    (hframe : userTurnFrame platform sha {} stack turn = some frame) : frame.threadKey ≠ "" := by
  have hcopy := copyThreadsByKey_of_replayed h
  have hkept : ∀ f time hint, (AgentBigBrain.Core.currentActiveThread stack).map (fun thread =>
      { thread with lastTouchedAt := time, resumeHint := hint }) = some f → f.threadKey ≠ "" := by
    intro f time hint hf
    obtain ⟨thread, hactive, rfl⟩ := Option.map_eq_some_iff.mp hf
    exact ((currentActiveThread_eq_some_iff h.sound.invariant.distinct).mp hactive).2.1
  unfold userTurnFrame at hframe
  simp only [missionThread] at hframe
  split at hframe
  · rename_i thread hresumed
    cases hframe
    have hthread := resumedThread_named h hresumed
    exact hthread
  · split_ifs at hframe
    · exact hkept frame _ _ hframe
    · split at hframe
      · cases hframe
        unfold threadOfTopic
        rw [hcopy]
        split
        · rename_i found hfound
          exact h.named found (List.mem_of_find?_eq_some hfound)
        · exact buildThreadKey_ne_empty _
      · exact hkept frame _ _ hframe

omit turn in
lemma touchThread_named {frame : ThreadFrameV1} (hframe : frame.threadKey ≠ "") (time : String) :
    ∀ thread ∈ (touchThread platform {} stack frame time).threads, thread.threadKey ≠ "" := by
  have hheld : ∀ thread ∈ copyThreadsByKey stack.threads, thread.threadKey ≠ "" := by
    rw [copyThreadsByKey_of_replayed h]
    exact h.named
  have hwritten := threadsByKey.forall_upsert (P := fun thread => thread.threadKey ≠ "")
    (x := frame) hheld (fun _ => hframe) fun _ _ _ => hframe
  intro thread hmem
  unfold touchThread evictThreadsOverCap sortThreads at hmem
  have hkept := (evictLoop_sublist _ _ _ _).subset ((threadOrder platform).mem_sort.mp hmem)
  unfold setActiveThread sortThreads at hkept
  obtain ⟨x, hx, rfl⟩ := List.mem_map.mp ((threadOrder platform).mem_sort.mp hkept)
  have hkey := hwritten x hx
  split_ifs
  · exact hkey
  · exact hkey
  · exact hkey

omit turn in
lemma replayed_touchThread {frame : ThreadFrameV1} (hstate : frame.state ≠ .resolved)
    (hframe : frame.threadKey ≠ "") (time : String) :
    Replayed platform (touchThread platform {} stack frame time) where
  sound := touchThread_sound time (by norm_num) h.sound.unresolved hstate
  named := touchThread_named h hframe time
  topicsDistinct := by
    have hnil : topicsByKey.Distinct [] := List.nodup_nil
    exact distinct_of_perm ((topicOrder platform).sort_perm _).symm
      (distinct_touchTopicNode (topicsByKey.distinct_collect hnil) _ _ _)
  threadsSorted := (threadOrder platform).sorted_sort _
  topicsSorted := (topicOrder platform).sorted_sort _

variable (sha) in
/-- Every turn of a replay leaves a stack of a replay. -/
theorem replayed_applyTurn : Replayed platform (applyTurn platform sha {} stack turn) := by
  have htimed : Replayed platform { stack with updatedAt := turn.at } :=
    h.of_sameTopics ⟨rfl, rfl, rfl⟩
  unfold applyTurn
  cases hrole : turn.role with
  | user =>
      dsimp only
      unfold applyUserTurnToConversationStackV1
      cases hframe : userTurnFrame platform sha {} stack turn with
      | none => exact htimed
      | some frame =>
          exact replayed_touchThread h (userTurnFrame_unresolved sha h.sound.unresolved hframe)
            (userTurnFrame_named h turn hframe) turn.at
  | assistant =>
      dsimp only
      refine ⟨assistantTurn_sound sha h.sound turn, ?_, ?_, ?_, ?_⟩
      · unfold applyAssistantTurnToConversationStackV1
        split
        · exact h.named
        · rename_i thread hactive
          have hkey :=
            ((currentActiveThread_eq_some_iff h.sound.invariant.distinct).mp hactive).2.1
          intro x hx
          have hwritten := (threadOrder platform).mem_sort.mp hx
          rw [copyThreadsByKey_of_replayed h] at hwritten
          refine threadsByKey.forall_upsert (P := fun thread => thread.threadKey ≠ "") h.named
            ?_ ?_ x hwritten
          · intro _
            dsimp only
            exact hkey
          · intro _ _ _
            dsimp only [threadsByKey_choose]
            exact hkey
      · unfold applyAssistantTurnToConversationStackV1
        split <;> exact h.topicsDistinct
      · unfold applyAssistantTurnToConversationStackV1
        split
        · exact h.threadsSorted
        · exact (threadOrder platform).sorted_sort _
      · unfold applyAssistantTurnToConversationStackV1
        split <;> exact h.topicsSorted

omit h in
/-- A turn that touches a thread makes it active, and no turn gives the active thread up. -/
lemma applyTurn_active
    (hactive : stack.activeThreadKey ≠ none ∨ Touches platform sha stack turn) :
    (applyTurn platform sha {} stack turn).activeThreadKey ≠ none := by
  unfold applyTurn
  cases hrole : turn.role with
  | user =>
      dsimp only
      unfold applyUserTurnToConversationStackV1
      cases hframe : userTurnFrame platform sha {} stack turn with
      | none =>
          rcases hactive with hactive | htouches
          · exact hactive
          · have hsome := htouches.2
            rw [hframe] at hsome
            cases hsome
      | some frame => simp [touchThread]
  | assistant =>
      dsimp only
      unfold applyAssistantTurnToConversationStackV1
      split
      · rcases hactive with hactive | htouches
        · exact hactive
        · rw [htouches.1] at hrole
          cases hrole
      · simp

end Turn

/-! ## Mentions of a replay -/

variable (sha) in
lemma replayed_foldl (h : Replayed platform stack) (turns : List ConversationStackTurnV1) :
    Replayed platform (turns.foldl (applyTurn platform sha {}) stack) := by
  induction turns generalizing stack with
  | nil => exact h
  | cons turn turns ih => exact ih (replayed_applyTurn sha h turn)

lemma foldl_active (turns : List ConversationStackTurnV1) (hactive : stack.activeThreadKey ≠ none) :
    (turns.foldl (applyTurn platform sha {}) stack).activeThreadKey ≠ none := by
  induction turns generalizing stack with
  | nil => exact hactive
  | cons turn turns ih => exact ih (applyTurn_active turn (Or.inl hactive))

/-- The user turns of a history. -/
def userTurns (turns : List ConversationStackTurnV1) : ℕ :=
  turns.countP fun turn => turn.role = .user

lemma userTurns_cons (turn : ConversationStackTurnV1) (turns : List ConversationStackTurnV1) :
    (userTurns (turn :: turns) : ℚ) = userTurns turns + if turn.role = .user then 1 else 0 := by
  unfold userTurns
  rw [List.countP_cons]
  push_cast
  split_ifs <;> simp_all

variable (platform sha) in
/-- A replay counts at most one mention for each user turn. -/
lemma mentions_foldl_le (h : topicsByKey.Distinct stack.topics)
    (turns : List ConversationStackTurnV1) :
    mentions (turns.foldl (applyTurn platform sha {}) stack).topics ≤
      mentions stack.topics + userTurns turns := by
  induction turns generalizing stack with
  | nil => simp [userTurns]
  | cons turn turns ih =>
      obtain ⟨hdistinct, hmentions⟩ := applyTurn_topics platform sha h turn
      have hone : (if Touches platform sha stack turn then 1 else 0 : ℚ) ≤
          if turn.role = .user then 1 else 0 := by
        split_ifs with htouches hrole
        · exact le_rfl
        · exact absurd htouches.1 hrole
        · exact zero_le_one
        · exact le_rfl
      have hrest := ih hdistinct
      rw [List.foldl_cons, userTurns_cons]
      linarith

variable (sha) in
/-- With an active thread it counts one for each. -/
lemma mentions_foldl_of_active (h : Replayed platform stack)
    (hactive : stack.activeThreadKey ≠ none) (turns : List ConversationStackTurnV1) :
    mentions (turns.foldl (applyTurn platform sha {}) stack).topics =
      mentions stack.topics + userTurns turns := by
  induction turns generalizing stack with
  | nil => simp [userTurns]
  | cons turn turns ih =>
      obtain ⟨-, hmentions⟩ := applyTurn_topics platform sha h.topicsDistinct turn
      obtain ⟨thread, hthread⟩ := h.currentActiveThread hactive
      have hone : (if Touches platform sha stack turn then 1 else 0 : ℚ) =
          if turn.role = .user then 1 else 0 := by
        split_ifs with htouches hrole hrole
        · rfl
        · exact absurd htouches.1 hrole
        · exact absurd (touches_of_active platform sha hthread hrole) htouches
        · rfl
      have hrest := ih (replayed_applyTurn sha h turn)
        (applyTurn_active turn (Or.inl hactive))
      rw [List.foldl_cons, userTurns_cons, hrest, hmentions, hone]
      ring

/-- A turn that opens a topic leaves an active thread and a mention. -/
lemma foldl_of_touching (h : Replayed platform stack) {turns : List ConversationStackTurnV1}
    (hactive : currentActiveThread stack = none)
    (htouching : ∃ turn ∈ turns, Touches platform sha stack turn) :
    (turns.foldl (applyTurn platform sha {}) stack).activeThreadKey ≠ none ∧
      mentions stack.topics + 1 ≤
        mentions (turns.foldl (applyTurn platform sha {}) stack).topics := by
  induction turns generalizing stack with
  | nil => simp at htouching
  | cons turn turns ih =>
      by_cases hturn : Touches platform sha stack turn
      · obtain ⟨hdistinct, hmentions⟩ := applyTurn_topics platform sha h.topicsDistinct turn
        have hle := mentions_le_foldl platform sha turns hdistinct
        rw [hmentions, if_pos hturn] at hle
        exact ⟨foldl_active turns (applyTurn_active turn (Or.inr hturn)), hle⟩
      · rw [List.foldl_cons, applyTurn_of_quiet platform sha hactive hturn]
        have hmoved : Replayed platform { stack with updatedAt := turn.at } :=
          h.of_sameTopics ⟨rfl, rfl, rfl⟩
        refine ih hmoved hactive ?_
        obtain ⟨t, ht, htouches⟩ := htouching
        rcases List.mem_cons.mp ht with rfl | ht
        · exact absurd htouches hturn
        · exact ⟨t, ht, (touches_updatedAt platform sha stack t turn.at).mpr htouches⟩

/-! ## A history that opens no topic -/

lemma touches_empty_iff (updatedAt : String) (turn : ConversationStackTurnV1) :
    Touches platform sha (createEmptyConversationStackV1 updatedAt) turn ↔ turn.role = .user ∧
      topicCandidate platform sha {} (normalizeWhitespace turn.text) turn.at ≠ none := by
  have hframe := userTurnFrame_eq_none_iff platform sha
    (createEmptyConversationStackV1 updatedAt) turn
  have hresumed : resumedThread platform (createEmptyConversationStackV1 updatedAt)
      (normalizeWhitespace turn.text) = none := by
    simp [resumedThread, resolveExplicitReturnThread, createEmptyConversationStackV1]
  have hactive : currentActiveThread (createEmptyConversationStackV1 updatedAt) = none := rfl
  unfold Touches
  rw [Option.isSome_iff_ne_none, ne_eq, hframe]
  simp [Topicless, hresumed, hactive]

lemma opensNoTopic_iff (turns : List ConversationStackTurnV1) (updatedAt : String) :
    OpensNoTopic platform sha turns ↔ ∀ turn ∈ orderedTurns platform turns,
      ¬ Touches platform sha (createEmptyConversationStackV1 updatedAt) turn := by
  unfold OpensNoTopic
  simp only [touches_empty_iff, orderedTurns, (replayOrder platform).mem_sort, List.mem_filter]
  constructor
  · rintro h turn ⟨hmem, hdated⟩ ⟨hrole, htopic⟩
    exact htopic (h turn hmem hdated hrole)
  · intro h turn hmem hdated hrole
    by_contra htopic
    exact h turn ⟨hmem, hdated⟩ ⟨hrole, htopic⟩

/-! ## Assistant turns of a replay -/

variable (platform) in
/-- The active thread stands before every other one. -/
lemma threadOrder_of_active {a b : ThreadFrameV1} (ha : a.state = .active) (hb : b.state ≠ .active) :
    (threadOrder platform).le a b = true ∧ (threadOrder platform).le b a = false := by
  cases hstate : b.state with
  | active => exact absurd hstate hb
  | paused =>
      simp [threadOrder, Comparator.thenBy, numberOrder, THREAD_STATE_SORT_WEIGHT, ha, hstate]
  | resolved =>
      simp [threadOrder, Comparator.thenBy, numberOrder, THREAD_STATE_SORT_WEIGHT, ha, hstate]

/-- Writing into the active thread leaves the threads in order. -/
lemma sort_retouch {key : String} {threads : List ThreadFrameV1} (h : ThreadsSound key threads)
    (hsorted : (threadOrder platform).Sorted threads) (time hint : String) :
    sortThreads platform (threads.map (retouch key time hint)) =
      threads.map (retouch key time hint) := by
  apply (threadOrder platform).sort_of_sorted
  unfold Comparator.Sorted
  rw [List.pairwise_map]
  refine List.Pairwise.imp_of_mem ?_ hsorted
  intro a b ha hb hab
  have hother : ∀ x : ThreadFrameV1, x.threadKey ≠ key → retouch key time hint x = x := by
    intro x hx
    unfold retouch
    rw [if_neg hx]
  have hstate : ∀ x : ThreadFrameV1, (retouch key time hint x).state = x.state := by
    intro x
    unfold retouch
    split_ifs <;> rfl
  by_cases hakey : a.threadKey = key
  · by_cases hbkey : b.threadKey = key
    · have hsame := threadsByKey.eq_of_distinct h.distinct ha hb (hakey.trans hbkey.symm)
      rw [hsame]
      exact (threadOrder platform).le_refl _
    · refine (threadOrder_of_active platform ?_ ?_).1
      · rw [hstate]
        exact (h.active a ha).mpr hakey
      · rw [hstate]
        exact fun hactive => hbkey ((h.active b hb).mp hactive)
  · by_cases hbkey : b.threadKey = key
    · have hba := (threadOrder_of_active platform ((h.active b hb).mpr hbkey)
        fun hactive => hakey ((h.active a ha).mp hactive)).2
      rw [hab] at hba
      cases hba
    · rw [hother a hakey, hother b hbkey]
      exact hab

lemma threadsSound_of_replayed (h : Replayed platform stack) {thread : ThreadFrameV1}
    (hactive : currentActiveThread stack = some thread) :
    ThreadsSound thread.threadKey stack.threads := by
  have hkey := ((currentActiveThread_eq_some_iff h.sound.invariant.distinct).mp hactive).1
  obtain ⟨-, ⟨hnone, -⟩ | ⟨key, hsome, hsound⟩⟩ := h.sound
  · rw [hnone] at hkey
    cases hkey
  · rw [hsome] at hkey
    cases hkey
    exact hsound

/-- After assistant turns the active thread holds what the last of them wrote. -/
lemma foldl_threads_of_assistants (h : Replayed platform stack) {thread : ThreadFrameV1}
    (hactive : currentActiveThread stack = some thread) {turns : List ConversationStackTurnV1}
    (hroles : ∀ turn ∈ turns, turn.role = .assistant) :
    (turns.foldl (applyTurn platform sha {}) stack).threads =
      turns.getLast?.elim stack.threads fun last =>
        stack.threads.map (retouch thread.threadKey last.at (buildResumeHint last.text)) := by
  induction turns using List.reverseRecOn with
  | nil => rfl
  | append_singleton turns turn ih =>
      have hearlier : ∀ t ∈ turns, t.role = .assistant :=
        fun t ht => hroles t (List.mem_append_left _ ht)
      have hdistinct := h.sound.invariant.distinct
      have hmoved := replayed_foldl sha h turns
      obtain ⟨moved, hmovedActive, hkey⟩ :=
        (sameUpToTouch_foldl platform sha hdistinct hactive hearlier).active hdistinct hactive
      have hsound := threadsSound_of_replayed hmoved hmovedActive
      rw [hkey] at hsound
      have hstep := applyTurn_of_active platform sha hmoved.sound.invariant.distinct hmovedActive
        (hroles turn (by simp))
      rw [List.foldl_append, List.foldl_cons, List.foldl_nil, hstep, hkey,
        sort_retouch hsound hmoved.threadsSorted, ih hearlier]
      cases turns.getLast? with
      | none => simp
      | some last =>
          simp only [Option.elim_some, List.map_map, List.getLast?_append, List.getLast?_singleton,
            Option.some_or]
          refine List.map_congr_left fun x _ => ?_
          exact retouch_retouch _ _ _ _ _ x

lemma map_retouch_eq_iff (h : Replayed platform stack) {thread : ThreadFrameV1}
    (hactive : currentActiveThread stack = some thread) (time hint : String) :
    stack.threads.map (retouch thread.threadKey time hint) = stack.threads ↔
      time = thread.lastTouchedAt ∧ hint = thread.resumeHint := by
  obtain ⟨-, -, hmem⟩ := (currentActiveThread_eq_some_iff h.sound.invariant.distinct).mp hactive
  constructor
  · intro hsame
    have hthread := List.map_inj_left.mp (hsame.trans (List.map_id stack.threads).symm) thread hmem
    unfold retouch at hthread
    rw [if_pos rfl] at hthread
    exact ⟨congrArg ThreadFrameV1.lastTouchedAt hthread, congrArg ThreadFrameV1.resumeHint hthread⟩
  · rintro ⟨rfl, rfl⟩
    refine List.map_congr_left (fun x hx => ?_) |>.trans (List.map_id stack.threads)
    by_cases hkey : x.threadKey = thread.threadKey
    · have hsame := threadsByKey.eq_of_distinct h.sound.invariant.distinct hx hmem hkey
      simp [retouch, hsame]
    · simp [retouch, hkey]

/-- A replay keeps a stack of a replay exactly if its turns are quiet. -/
theorem sameTopics_foldl_iff (h : Replayed platform stack) (turns : List ConversationStackTurnV1) :
    SameTopics ((orderedTurns platform turns).foldl (applyTurn platform sha {}) stack) stack ↔
      ReplayQuiet platform sha stack turns := by
  unfold ReplayQuiet
  cases hactive : currentActiveThread stack with
  | none =>
      have htopicless : (∀ turn ∈ orderedTurns platform turns, turn.role = .user →
          Topicless platform sha stack turn) ↔
          ∀ turn ∈ orderedTurns platform turns, ¬ Touches platform sha stack turn := by
        refine forall₂_congr fun turn _ => ?_
        have hframe := userTurnFrame_eq_none_iff platform sha stack turn
        unfold Touches
        rw [Option.isSome_iff_ne_none, ne_eq, hframe]
        simp [hactive]
      have htopics := foldl_topics_eq_iff_of_inactive platform sha h.topicsDistinct hactive
        (orderedTurns platform turns)
      simp only [htopicless]
      constructor
      · exact fun hsame => htopics.mp hsame.topics
      · intro hquiet
        obtain ⟨time, hfold⟩ := foldl_of_inactive platform sha hactive hquiet
        rw [hfold]
        exact sameTopics_updatedAt stack time
  | some thread =>
      have hlast (hroles : ∀ turn ∈ orderedTurns platform turns, turn.role = .assistant) :
          ((orderedTurns platform turns).foldl (applyTurn platform sha {}) stack).threads =
            stack.threads ↔ LastTouch thread (orderedTurns platform turns) := by
        rw [foldl_threads_of_assistants h hactive hroles]
        unfold LastTouch
        cases (orderedTurns platform turns).getLast? with
        | none => simp
        | some last => simpa using map_retouch_eq_iff h hactive last.at (buildResumeHint last.text)
      constructor
      · intro hsame
        have hroles := assistant_of_foldl_topics platform sha h.sound.invariant.distinct
          h.topicsDistinct hactive hsame.topics
        exact ⟨hroles, (hlast hroles).mp hsame.threads⟩
      · rintro ⟨hroles, htouch⟩
        have hsame := sameUpToTouch_foldl platform sha h.sound.invariant.distinct hactive hroles
        exact ⟨(hlast hroles).mpr htouch, hsame.topics, hsame.activeThreadKey⟩

/-! ## Refresh and rebuild -/

variable (platform sha) in
lemma replayed_builtFrom (turns : List ConversationStackTurnV1) (updatedAt : String) :
    Replayed platform (builtFrom platform sha turns updatedAt) :=
  (replayed_foldl sha (replayed_empty platform updatedAt) _).of_sameTopics
    (sameTopics_builtFrom platform sha turns updatedAt updatedAt).symm

variable (sha) in
/-- A replay over a stack of a replay starts from it as it is. -/
lemma sameTopics_build_some (h : Replayed platform stack) (turns : List ConversationStackTurnV1)
    (updatedAt : String) :
    SameTopics (buildConversationStackFromTurnsV1 platform sha turns updatedAt {} (some stack))
      ((orderedTurns platform turns).foldl (applyTurn platform sha {}) stack) := by
  have hthreads : sortThreads platform stack.threads = stack.threads :=
    (threadOrder platform).sort_of_sorted h.threadsSorted
  have htopics : sortTopicNodes platform stack.topics = stack.topics :=
    (topicOrder platform).sort_of_sorted h.topicsSorted
  unfold buildConversationStackFromTurnsV1
  dsimp only
  rw [hthreads, htopics]
  exact sameTopics_raiseUpdatedAt _ _

variable (sha) in
lemma migrate_of_newer {turns : List ConversationStackTurnV1} (updatedAt : String)
    (hnewer : HasNewerTurn platform stack turns) :
    ∃ latest, migrateSessionConversationStackToV2 platform sha (some .v2) updatedAt turns
        (some stack) =
      buildConversationStackFromTurnsV1 platform sha turns latest {} (some stack) := by
  obtain ⟨latest, hlatest, hguard⟩ := hnewer
  refine ⟨latest, ?_⟩
  unfold migrateSessionConversationStackToV2
  dsimp only
  rw [Option.mem_def.mp hlatest]
  dsimp only
  rw [if_pos hguard]

lemma migrate_of_not_newer {turns : List ConversationStackTurnV1} (updatedAt : String)
    (hnewer : ¬ HasNewerTurn platform stack turns) :
    migrateSessionConversationStackToV2 platform sha (some .v2) updatedAt turns (some stack) =
      stack := by
  unfold migrateSessionConversationStackToV2
  dsimp only
  cases hlatest : latestTurnAt platform turns with
  | none => rfl
  | some latest =>
      dsimp only
      rw [if_neg]
      exact fun hguard => hnewer ⟨latest, hlatest, hguard⟩

/-- A replay of all turns over the stack of the first of them agrees with a replay from the empty
stack exactly if the first of them opened no topic. -/
lemma sameTopics_replay_iff (history turns : List ConversationStackTurnV1) (builtAt : String) :
    SameTopics
        ((orderedTurns platform turns).foldl (applyTurn platform sha {})
          (builtFrom platform sha history builtAt))
        ((orderedTurns platform turns).foldl (applyTurn platform sha {})
          (createEmptyConversationStackV1 builtAt)) ↔
      OpensNoTopic platform sha history := by
  have hempty := replayed_empty platform builtAt
  have hbuilt := sameTopics_builtFrom platform sha history builtAt builtAt
  rw [opensNoTopic_iff history builtAt]
  constructor
  · intro hsame
    by_contra htouching
    push Not at htouching
    obtain ⟨hactive, hmention⟩ := foldl_of_touching hempty rfl htouching
    rw [← hbuilt.activeThreadKey] at hactive
    rw [← hbuilt.topics] at hmention
    have hreplayed := mentions_foldl_of_active sha (replayed_builtFrom platform sha history builtAt)
      hactive (orderedTurns platform turns)
    have hrebuilt := mentions_foldl_le platform sha hempty.topicsDistinct
      (orderedTurns platform turns)
    have hnone : mentions (createEmptyConversationStackV1 builtAt).topics = 0 := rfl
    rw [hsame.topics] at hreplayed
    rw [hnone] at hrebuilt hmention
    linarith
  · intro hquiet
    have hinactive : currentActiveThread (createEmptyConversationStackV1 builtAt) = none := rfl
    obtain ⟨time, hfold⟩ := foldl_of_inactive platform sha hinactive hquiet
    rw [hfold] at hbuilt
    exact (hbuilt.trans (sameTopics_updatedAt _ time)).foldl platform sha _

lemma orderedTurns_append {history later : List ConversationStackTurnV1}
    (h : ∀ turn ∈ orderedTurns platform history, ∀ next ∈ orderedTurns platform later,
      (replayOrder platform).le turn next = true) :
    orderedTurns platform (history ++ later) =
      orderedTurns platform history ++ orderedTurns platform later := by
  unfold orderedTurns at h ⊢
  rw [List.filter_append]
  refine (replayOrder platform).sort_append fun turn hturn next hnext => ?_
  exact h turn ((replayOrder platform).mem_sort.mpr hturn) next
    ((replayOrder platform).mem_sort.mpr hnext)

/-- Refreshing the stack of a history with later turns gives what a rebuild from all of them gives
exactly if the history had opened no topic or, where no turn is newer than the stack, the later
turns leave it as it is. -/
theorem refresh_eq_rebuild_iff (platform : Platform) (sha : Sha256)
    (history later : List ConversationStackTurnV1) (builtAt rebuiltAt updatedAt : String)
    (hlater : HasNewerTurn platform (builtFrom platform sha history builtAt) (history ++ later) ∨
      ∀ turn ∈ orderedTurns platform history, ∀ next ∈ orderedTurns platform later,
        (replayOrder platform).le turn next = true) :
    SameTopics
        (migrateSessionConversationStackToV2 platform sha (some .v2) updatedAt (history ++ later)
          (some (builtFrom platform sha history builtAt)))
        (builtFrom platform sha (history ++ later) rebuiltAt) ↔
      if HasNewerTurn platform (builtFrom platform sha history builtAt) (history ++ later) then
        OpensNoTopic platform sha history
      else
        ReplayQuiet platform sha (builtFrom platform sha history builtAt) later := by
  have hreplayed := replayed_builtFrom platform sha history builtAt
  have hrebuilt := sameTopics_builtFrom platform sha (history ++ later)
    rebuiltAt builtAt
  split_ifs with hnewer
  · obtain ⟨latest, hmigrated⟩ := migrate_of_newer sha updatedAt hnewer
    have hrefreshed := sameTopics_build_some sha hreplayed (history ++ later) latest
    rw [hmigrated, ← sameTopics_replay_iff history (history ++ later) builtAt]
    constructor
    · exact fun hsame => (hrefreshed.symm.trans hsame).trans hrebuilt
    · exact fun hsame => (hrefreshed.trans hsame).trans hrebuilt.symm
  · have horder := orderedTurns_append (hlater.resolve_left hnewer)
    have hbuilt := sameTopics_builtFrom platform sha history builtAt builtAt
    have htail := hbuilt.foldl platform sha (orderedTurns platform later)
    rw [migrate_of_not_newer updatedAt hnewer, ← sameTopics_foldl_iff hreplayed later]
    rw [horder, List.foldl_append] at hrebuilt
    constructor
    · exact fun hsame => (htail.trans hrebuilt.symm).trans hsame.symm
    · exact fun hsame => (hrebuilt.trans (htail.symm.trans hsame)).symm

/-! ## A renovation planned in two turns -/

def renovationPlatform : Platform :=
  .ofDates
    [("2026-01-01T00:01:00.000Z", 1767225660000), ("2026-01-01T00:02:00.000Z", 1767225720000)]

def renovationTurn : ConversationStackTurnV1 where
  role := .user
  text := "renovation"
  «at» := "2026-01-01T00:01:00.000Z"

def renovationReply : ConversationStackTurnV1 where
  role := .assistant
  text := "Noted."
  «at» := "2026-01-01T00:02:00.000Z"

lemma reply_follows :
    ∀ turn ∈ orderedTurns renovationPlatform [renovationTurn],
      ∀ next ∈ orderedTurns renovationPlatform [renovationReply],
        (replayOrder renovationPlatform).le turn next = true := by
  have hturn : orderedTurns renovationPlatform [renovationTurn] = [renovationTurn] := by
    decide
  have hreply : orderedTurns renovationPlatform [renovationReply] = [renovationReply] := by
    decide
  rw [hturn, hreply]
  intro turn ht next hn
  rw [List.mem_singleton.mp ht, List.mem_singleton.mp hn]
  decide +kernel

theorem refresh_eq_rebuild_iff_of_renovation :
    SameTopics
        (migrateSessionConversationStackToV2 renovationPlatform pulseSha (some .v2)
          renovationReply.at ([renovationTurn] ++ [renovationReply])
          (some (builtFrom renovationPlatform pulseSha [renovationTurn] renovationTurn.at)))
        (builtFrom renovationPlatform pulseSha ([renovationTurn] ++ [renovationReply])
          renovationReply.at) ↔
      if HasNewerTurn renovationPlatform
          (builtFrom renovationPlatform pulseSha [renovationTurn] renovationTurn.at)
          ([renovationTurn] ++ [renovationReply]) then
        OpensNoTopic renovationPlatform pulseSha [renovationTurn]
      else
        ReplayQuiet renovationPlatform pulseSha
          (builtFrom renovationPlatform pulseSha [renovationTurn] renovationTurn.at)
          [renovationReply] :=
  refresh_eq_rebuild_iff renovationPlatform pulseSha [renovationTurn] [renovationReply]
    renovationTurn.at renovationReply.at renovationReply.at (Or.inr reply_follows)

/-- The refresh with the reply counts the mention of the first turn again. -/
theorem refresh_counts_again :
    ((migrateSessionConversationStackToV2 renovationPlatform pulseSha (some .v2)
        renovationReply.at ([renovationTurn] ++ [renovationReply])
        (some (builtFrom renovationPlatform pulseSha [renovationTurn]
          renovationTurn.at))).topics.map TopicNodeV1.mentionCount) = [2] ∧
      ((builtFrom renovationPlatform pulseSha ([renovationTurn] ++ [renovationReply])
        renovationReply.at).topics.map TopicNodeV1.mentionCount) = [1] := by
  decide +kernel

end AgentBigBrain.Core

import AgentBigBrain.Core.ConversationStack

/-!
# Replaying turns on a stack that has seen them

A replay over an existing stack applies every turn again. A user turn that touches a
thread counts a further mention of its topic, so the replay gives the same stack only
if no turn touches one, apart from the last assistant turn, which may write into the
active thread what already stands there.
-/
namespace AgentBigBrain.Core

open AgentBigBrain.Js AgentBigBrain.Lib

variable (platform : Platform) (sha : Sha256)

/-- Threads and topics stand under different keys, in the order a turn leaves them in. -/
structure StackInOrder (stack : ConversationStackV1) : Prop where
  threadsDistinct : threadsByKey.Distinct stack.threads
  threadsOrdered : stack.threads.Pairwise fun a b => (threadOrder platform).le b a = false
  topicsDistinct : topicsByKey.Distinct stack.topics
  topicsOrdered : (topicOrder platform).Sorted stack.topics

instance (stack : ConversationStackV1) : Decidable (StackInOrder platform stack) :=
  decidable_of_iff
    (threadsByKey.Distinct stack.threads ∧
      (stack.threads.Pairwise fun a b => (threadOrder platform).le b a = false) ∧
      topicsByKey.Distinct stack.topics ∧ (topicOrder platform).Sorted stack.topics)
    ⟨fun h => ⟨h.1, h.2.1, h.2.2.1, h.2.2.2⟩, fun h => ⟨h.1, h.2, h.3, h.4⟩⟩

/-! ## Mentions -/

/-- The mentions counted over all topics. -/
def mentions (topics : List TopicNodeV1) : ℚ :=
  (topics.map TopicNodeV1.mentionCount).sum

lemma mentions_perm {xs ys : List TopicNodeV1} (h : xs.Perm ys) : mentions xs = mentions ys :=
  (h.map _).sum_eq

lemma mentions_upsert {x existing : TopicNodeV1} {topics : List TopicNodeV1} {key : String}
    (hx : x.topicKey = key) (h : topicsByKey.find key topics = some existing) :
    mentions (topicsByKey.upsert x topics) =
      mentions topics - existing.mentionCount + x.mentionCount := by
  subst hx
  induction topics with
  | nil => simp [KeyedMerge.find] at h
  | cons y ys ih =>
      unfold KeyedMerge.find at h ih
      by_cases hkey : y.topicKey = x.topicKey
      · have hy : y = existing := by simpa [hkey] using h
        subst hy
        simp only [KeyedMerge.upsert, topicsByKey_key, hkey, if_true, topicsByKey_choose, mentions,
          List.map_cons, List.sum_cons]
        ring
      · have hrest := ih (by simpa [hkey] using h)
        simp only [KeyedMerge.upsert, topicsByKey_key, hkey, if_false, mentions, List.map_cons,
          List.sum_cons] at hrest ⊢
        rw [hrest]
        ring

/-- Touching a topic counts one mention. -/
theorem mentions_touchTopicNode (topics : List TopicNodeV1) (topicKey topicLabel at_ : String) :
    mentions (touchTopicNode topics topicKey topicLabel at_) = mentions topics + 1 := by
  unfold touchTopicNode
  split
  · rename_i hnone
    have habsent : topicKey ∉ topics.map topicsByKey.key := topicsByKey.find_eq_none_iff.mp hnone
    rw [topicsByKey.upsert_of_not_mem habsent]
    simp [mentions]
  · rename_i existing hfound
    have hkey : existing.topicKey = topicKey := (topicsByKey.mem_of_find hfound).2
    refine (mentions_upsert ?_ hfound).trans (by ring)
    exact hkey

lemma distinct_touchTopicNode {topics : List TopicNodeV1} (h : topicsByKey.Distinct topics)
    (topicKey topicLabel at_ : String) :
    topicsByKey.Distinct (touchTopicNode topics topicKey topicLabel at_) := by
  unfold touchTopicNode
  split <;> exact topicsByKey.distinct_upsert h

/-! ## One turn -/

/-- A user turn that touches a thread. -/
def Touches (stack : ConversationStackV1) (turn : ConversationStackTurnV1) : Prop :=
  turn.role = .user ∧ (userTurnFrame platform sha {} stack turn).isSome

instance (stack : ConversationStackV1) (turn : ConversationStackTurnV1) :
    Decidable (Touches platform sha stack turn) :=
  inferInstanceAs (Decidable (_ ∧ _))

lemma distinct_of_perm {xs ys : List TopicNodeV1} (h : xs.Perm ys)
    (hxs : topicsByKey.Distinct xs) : topicsByKey.Distinct ys :=
  (h.map _).nodup_iff.mp hxs

/-- Every turn keeps the topics apart and counts one mention if it touches a thread. -/
lemma applyTurn_topics {stack : ConversationStackV1} (h : topicsByKey.Distinct stack.topics)
    (turn : ConversationStackTurnV1) :
    topicsByKey.Distinct (applyTurn platform sha {} stack turn).topics ∧
      mentions (applyTurn platform sha {} stack turn).topics =
        mentions stack.topics + if Touches platform sha stack turn then 1 else 0 := by
  obtain ⟨role, text, time⟩ := turn
  unfold applyTurn Touches
  cases role with
  | assistant =>
      simp only [reduceCtorEq, false_and, if_false, add_zero]
      unfold applyAssistantTurnToConversationStackV1
      split <;> exact ⟨h, rfl⟩
  | user =>
      simp only [true_and]
      unfold applyUserTurnToConversationStackV1
      cases hframe : userTurnFrame platform sha {} stack ⟨.user, text, time⟩ with
      | none => simpa using h
      | some frame =>
          have hperm := (topicOrder platform).sort_perm
            (touchTopicNode stack.topics frame.topicKey frame.topicLabel time)
          have hcopy := topicsByKey.collect_nil_of_distinct h
          simp only [Option.isSome_some, if_true, touchThread, hcopy, sortTopicNodes]
          refine ⟨distinct_of_perm hperm.symm (distinct_touchTopicNode h _ _ _), ?_⟩
          rw [mentions_perm hperm, mentions_touchTopicNode]

lemma applyTurn_updatedAt (stack : ConversationStackV1) (turn : ConversationStackTurnV1) :
    (applyTurn platform sha {} stack turn).updatedAt = turn.at := by
  unfold applyTurn applyUserTurnToConversationStackV1 applyAssistantTurnToConversationStackV1
  split <;> split <;> rfl

lemma foldl_applyTurn_updatedAt (turns : List ConversationStackTurnV1)
    (stack : ConversationStackV1) :
    (turns.foldl (applyTurn platform sha {}) stack).updatedAt =
      (turns.getLast?.map ConversationStackTurnV1.at).getD stack.updatedAt := by
  induction turns using List.reverseRecOn with
  | nil => rfl
  | append_singleton turns turn _ =>
      simp [List.foldl_append, applyTurn_updatedAt]

/-- Mentions are never taken back. -/
lemma mentions_le_foldl (turns : List ConversationStackTurnV1) {stack : ConversationStackV1}
    (h : topicsByKey.Distinct stack.topics) :
    mentions stack.topics ≤ mentions (turns.foldl (applyTurn platform sha {}) stack).topics := by
  induction turns generalizing stack with
  | nil => exact le_rfl
  | cons turn turns ih =>
      obtain ⟨hdistinct, hmentions⟩ := applyTurn_topics platform sha h turn
      refine le_trans ?_ (ih hdistinct)
      rw [hmentions]
      split_ifs <;> linarith

/-- A replay that leaves the topics as they are begins with a turn that touches no thread. -/
lemma not_touches_of_foldl {turn : ConversationStackTurnV1} {turns : List ConversationStackTurnV1}
    {stack : ConversationStackV1} (h : topicsByKey.Distinct stack.topics)
    (hfix : ((turn :: turns).foldl (applyTurn platform sha {}) stack).topics = stack.topics) :
    ¬ Touches platform sha stack turn := by
  intro htouches
  obtain ⟨hdistinct, hmentions⟩ := applyTurn_topics platform sha h turn
  have hle := mentions_le_foldl platform sha turns hdistinct
  rw [List.foldl_cons] at hfix
  rw [hfix, hmentions, if_pos htouches] at hle
  linarith

/-! ## Without an active thread -/

/-- The text of a user turn names no thread and no topic. -/
def Topicless (stack : ConversationStackV1) (turn : ConversationStackTurnV1) : Prop :=
  resumedThread platform stack (normalizeWhitespace turn.text) = none ∧
    topicCandidate platform sha {} (normalizeWhitespace turn.text) turn.at = none

lemma userTurnFrame_eq_none_iff (stack : ConversationStackV1) (turn : ConversationStackTurnV1) :
    userTurnFrame platform sha {} stack turn = none ↔
      currentActiveThread stack = none ∧ Topicless platform sha stack turn := by
  unfold userTurnFrame Topicless
  cases hactive : currentActiveThread stack with
  | some thread =>
      simp only [missionThread, Option.map_some, Option.isSome_some, Bool.and_true, reduceCtorEq,
        false_and, iff_false]
      split
      · simp
      · split_ifs
        · simp
        · split <;> simp
  | none =>
      simp only [missionThread, Option.map_none, Option.isSome_none, Bool.and_false,
        Bool.false_eq_true, if_false, true_and]
      split
      · rename_i hresumed
        simp [hresumed]
      · rename_i hresumed
        split <;> rename_i hcandidate <;> simp [hresumed, hcandidate]

lemma applyTurn_of_quiet {stack : ConversationStackV1} (hactive : currentActiveThread stack = none)
    {turn : ConversationStackTurnV1} (h : ¬ Touches platform sha stack turn) :
    applyTurn platform sha {} stack turn = { stack with updatedAt := turn.at } := by
  unfold applyTurn
  unfold Touches at h
  cases hrole : turn.role with
  | user =>
      have hframe : userTurnFrame platform sha {} stack turn = none := by
        simpa [hrole] using h
      simp [applyUserTurnToConversationStackV1, hframe]
  | assistant => simp [applyAssistantTurnToConversationStackV1, hactive]

lemma userTurnFrame_congr (stack other : ConversationStackV1)
    (hthreads : stack.threads = other.threads)
    (hactive : stack.activeThreadKey = other.activeThreadKey) (turn : ConversationStackTurnV1) :
    userTurnFrame platform sha {} stack turn = userTurnFrame platform sha {} other turn := by
  unfold userTurnFrame currentActiveThread missionThread resumedThread staysOnReturnSignal
    resolveExplicitReturnThread threadOfTopic
  rw [hthreads, hactive]

lemma touches_updatedAt (stack : ConversationStackV1) (turn : ConversationStackTurnV1)
    (time : String) :
    Touches platform sha { stack with updatedAt := time } turn ↔
      Touches platform sha stack turn := by
  have hframe : userTurnFrame platform sha {} { stack with updatedAt := time } turn =
      userTurnFrame platform sha {} stack turn :=
    userTurnFrame_congr platform sha { stack with updatedAt := time } stack rfl rfl turn
  unfold Touches
  rw [hframe]

/-- Without an active thread a replay keeps the stack, up to its time, exactly if no user turn
names a topic. -/
lemma foldl_topics_eq_iff_of_inactive {stack : ConversationStackV1}
    (h : topicsByKey.Distinct stack.topics) (hactive : currentActiveThread stack = none)
    (turns : List ConversationStackTurnV1) :
    (turns.foldl (applyTurn platform sha {}) stack).topics = stack.topics ↔
      ∀ turn ∈ turns, ¬ Touches platform sha stack turn := by
  induction turns generalizing stack with
  | nil => simp
  | cons turn turns ih =>
      have hmoved : currentActiveThread { stack with updatedAt := turn.at } = none := hactive
      have hdistinct : topicsByKey.Distinct { stack with updatedAt := turn.at }.topics := h
      have hrest := ih hdistinct hmoved
      simp only [touches_updatedAt] at hrest
      constructor
      · intro hfix
        have hquiet := not_touches_of_foldl platform sha h hfix
        rw [List.foldl_cons, applyTurn_of_quiet platform sha hactive hquiet] at hfix
        intro t ht
        rcases List.mem_cons.mp ht with rfl | ht
        · exact hquiet
        · exact hrest.mp hfix t ht
      · intro hquiet
        rw [List.foldl_cons, applyTurn_of_quiet platform sha hactive (hquiet turn (by simp))]
        exact hrest.mpr fun t ht => hquiet t (List.mem_cons_of_mem turn ht)

lemma foldl_of_inactive {stack : ConversationStackV1} (hactive : currentActiveThread stack = none)
    {turns : List ConversationStackTurnV1} (h : ∀ turn ∈ turns, ¬ Touches platform sha stack turn) :
    ∃ time, turns.foldl (applyTurn platform sha {}) stack = { stack with updatedAt := time } := by
  induction turns generalizing stack with
  | nil => exact ⟨stack.updatedAt, rfl⟩
  | cons turn turns ih =>
      rw [List.foldl_cons, applyTurn_of_quiet platform sha hactive (h turn (by simp))]
      have hmoved : currentActiveThread { stack with updatedAt := turn.at } = none := hactive
      refine ih hmoved fun t ht => ?_
      rw [touches_updatedAt]
      exact h t (List.mem_cons_of_mem turn ht)

/-! ## With an active thread -/

lemma touches_of_active {stack : ConversationStackV1} {thread : ThreadFrameV1}
    (hactive : currentActiveThread stack = some thread) {turn : ConversationStackTurnV1}
    (hrole : turn.role = .user) : Touches platform sha stack turn := by
  refine ⟨hrole, Option.isSome_iff_ne_none.mpr fun hnone => ?_⟩
  have hinactive := ((userTurnFrame_eq_none_iff platform sha stack turn).mp hnone).1
  rw [hactive] at hinactive
  cases hinactive

/-- What an assistant turn writes into the frame of the thread it touches. -/
def retouch (key time hint : String) (thread : ThreadFrameV1) : ThreadFrameV1 :=
  if thread.threadKey = key then { thread with lastTouchedAt := time, resumeHint := hint }
  else thread

@[simp] lemma retouch_threadKey (key time hint : String) (thread : ThreadFrameV1) :
    (retouch key time hint thread).threadKey = thread.threadKey := by
  unfold retouch
  split_ifs <;> rfl

@[simp] lemma retouch_retouch (key time hint time' hint' : String) (thread : ThreadFrameV1) :
    retouch key time' hint' (retouch key time hint thread) = retouch key time' hint' thread := by
  by_cases h : thread.threadKey = key <;> simp [retouch, h]

lemma currentActiveThread_eq_some_iff {stack : ConversationStackV1}
    (h : threadsByKey.Distinct stack.threads) {thread : ThreadFrameV1} :
    currentActiveThread stack = some thread ↔
      stack.activeThreadKey = some thread.threadKey ∧ thread.threadKey ≠ "" ∧
        thread ∈ stack.threads := by
  unfold currentActiveThread copyThreadsByKey
  rw [threadsByKey.collect_nil_of_distinct h]
  cases hkey : stack.activeThreadKey with
  | none => simp
  | some key =>
      by_cases hempty : key = ""
      · subst hempty
        simp only [if_true, reduceCtorEq, Option.some.injEq, false_iff, not_and]
        intro h1 h2
        exact absurd h1.symm h2
      · simp only [hempty, if_false, Option.some.injEq, threadsByKey.find_eq_some_iff h,
          threadsByKey_key]
        constructor
        · rintro ⟨hmem, rfl⟩
          exact ⟨rfl, hempty, hmem⟩
        · rintro ⟨hkey', -, hmem⟩
          exact ⟨hmem, hkey'.symm⟩

lemma applyTurn_of_active {stack : ConversationStackV1} (h : threadsByKey.Distinct stack.threads)
    {thread : ThreadFrameV1} (hactive : currentActiveThread stack = some thread)
    {turn : ConversationStackTurnV1} (hrole : turn.role = .assistant) :
    applyTurn platform sha {} stack turn =
      { updatedAt := turn.at
        activeThreadKey := stack.activeThreadKey
        threads := sortThreads platform (stack.threads.map
          (retouch thread.threadKey turn.at (buildResumeHint turn.text)))
        topics := stack.topics } := by
  obtain ⟨hkey, -, hmem⟩ := (currentActiveThread_eq_some_iff h).mp hactive
  have hpresent : thread.threadKey ∈ stack.threads.map threadsByKey.key :=
    List.mem_map_of_mem hmem
  simp only [applyTurn, hrole, applyAssistantTurnToConversationStackV1, hactive, copyThreadsByKey,
    threadsByKey.collect_nil_of_distinct h]
  have hwrite (frame : ThreadFrameV1) (hframe : frame.threadKey = thread.threadKey) :
      threadsByKey.upsert frame stack.threads =
        stack.threads.map fun x => if x.threadKey = frame.threadKey then frame else x :=
    threadsByKey.upsert_eq_map h (by simpa [hframe] using hpresent)
  rw [hwrite _ (by rfl), hkey]
  congr 2
  refine List.map_congr_left fun x hx => ?_
  by_cases hx' : x.threadKey = thread.threadKey
  · have hsame : x = thread := threadsByKey.eq_of_distinct h hx hmem hx'
    simp [retouch, hsame]
  · simp [retouch, hx']

/-- The stacks that differ only in what was written into the thread of one key. -/
structure SameUpToTouch (key : String) (stack other : ConversationStackV1) : Prop where
  activeThreadKey : other.activeThreadKey = stack.activeThreadKey
  topics : other.topics = stack.topics
  threads : ∀ time hint,
    (other.threads.map (retouch key time hint)).Perm (stack.threads.map (retouch key time hint))

namespace SameUpToTouch

variable {key : String} {stack other : ConversationStackV1}

lemma keys_perm (h : SameUpToTouch key stack other) :
    (other.threads.map threadsByKey.key).Perm (stack.threads.map threadsByKey.key) := by
  have hperm := (h.threads "" "").map ThreadFrameV1.threadKey
  change (other.threads.map fun x => x.threadKey).Perm (stack.threads.map fun x => x.threadKey)
  simpa [Function.comp_def] using hperm

lemma distinct (h : SameUpToTouch key stack other) (hstack : threadsByKey.Distinct stack.threads) :
    threadsByKey.Distinct other.threads :=
  h.keys_perm.nodup_iff.mpr hstack

lemma active (h : SameUpToTouch key stack other) (hstack : threadsByKey.Distinct stack.threads)
    {thread : ThreadFrameV1} (hactive : currentActiveThread stack = some thread) :
    ∃ moved, currentActiveThread other = some moved ∧ moved.threadKey = thread.threadKey := by
  obtain ⟨hkey, hne, hmem⟩ := (currentActiveThread_eq_some_iff hstack).mp hactive
  have hmem' : thread.threadKey ∈ other.threads.map threadsByKey.key :=
    h.keys_perm.mem_iff.mpr (List.mem_map_of_mem hmem)
  obtain ⟨moved, hmoved, hsame⟩ := List.mem_map.mp hmem'
  have hsame : moved.threadKey = thread.threadKey := hsame
  refine ⟨moved, (currentActiveThread_eq_some_iff (h.distinct hstack)).mpr ⟨?_, ?_, hmoved⟩, hsame⟩
  · rw [h.activeThreadKey, hkey, hsame]
  · rw [hsame]
    exact hne

end SameUpToTouch

lemma sameUpToTouch_foldl {stack : ConversationStackV1}
    (h : threadsByKey.Distinct stack.threads) {thread : ThreadFrameV1}
    (hactive : currentActiveThread stack = some thread) {turns : List ConversationStackTurnV1}
    (hroles : ∀ turn ∈ turns, turn.role = .assistant) :
    SameUpToTouch thread.threadKey stack (turns.foldl (applyTurn platform sha {}) stack) := by
  induction turns using List.reverseRecOn with
  | nil => exact ⟨rfl, rfl, fun _ _ => List.Perm.refl _⟩
  | append_singleton turns turn ih =>
      have hsame := ih fun t ht => hroles t (List.mem_append_left _ ht)
      obtain ⟨moved, hmoved, hkey⟩ := hsame.active h hactive
      have hstep := applyTurn_of_active platform sha (hsame.distinct h) hmoved
        (hroles turn (by simp))
      rw [List.foldl_append, List.foldl_cons, List.foldl_nil, hstep, hkey]
      refine ⟨hsame.activeThreadKey, hsame.topics, fun time hint => ?_⟩
      refine (((threadOrder platform).sort_perm _).map _).trans ?_
      simpa [Function.comp_def] using hsame.threads time hint

/-- With an active thread a replay that leaves the topics as they are has no user turns. -/
lemma assistant_of_foldl_topics {stack : ConversationStackV1}
    (hthreads : threadsByKey.Distinct stack.threads) (htopics : topicsByKey.Distinct stack.topics)
    {thread : ThreadFrameV1} (hactive : currentActiveThread stack = some thread)
    {turns : List ConversationStackTurnV1}
    (hfix : (turns.foldl (applyTurn platform sha {}) stack).topics = stack.topics) :
    ∀ turn ∈ turns, turn.role = .assistant := by
  induction turns generalizing stack thread with
  | nil => simp
  | cons turn turns ih =>
      have hrole : turn.role = .assistant := by
        cases hrole : turn.role with
        | assistant => rfl
        | user =>
            exact absurd (touches_of_active platform sha hactive hrole)
              (not_touches_of_foldl platform sha htopics hfix)
      have hone : ∀ t ∈ [turn], t.role = .assistant := by simpa using hrole
      have hsame : SameUpToTouch thread.threadKey stack (applyTurn platform sha {} stack turn) :=
        sameUpToTouch_foldl platform sha hthreads hactive hone
      obtain ⟨moved, hmoved, -⟩ := hsame.active hthreads hactive
      have hrest := ih (hsame.distinct hthreads) (by rw [hsame.topics]; exact htopics) hmoved
        (by rw [hsame.topics]; exact hfix)
      intro t ht
      rcases List.mem_cons.mp ht with rfl | ht
      · exact hrole
      · exact hrest t ht

/-- The last assistant turn writes into the active thread what already stands there. -/
def LastTouch (thread : ThreadFrameV1) (turns : List ConversationStackTurnV1) : Prop :=
  ∀ turn ∈ turns.getLast?,
    turn.at = thread.lastTouchedAt ∧ buildResumeHint turn.text = thread.resumeHint

lemma strict_ties {threads : List ThreadFrameV1}
    (h : threads.Pairwise fun a b => (threadOrder platform).le b a = false) :
    ∀ a ∈ threads, ∀ b ∈ threads, (threadOrder platform).le a b = true →
      (threadOrder platform).le b a = true → a = b := by
  induction threads with
  | nil => simp
  | cons x xs ih =>
      obtain ⟨hx, hxs⟩ := List.pairwise_cons.mp h
      intro a ha b hb hab hba
      rcases List.mem_cons.mp ha with rfl | ha' <;> rcases List.mem_cons.mp hb with rfl | hb'
      · rfl
      · rw [hx b hb'] at hba
        cases hba
      · rw [hx a ha'] at hab
        cases hab
      · exact ih hxs a ha' b hb' hab hba

lemma sorted_of_strict {threads : List ThreadFrameV1}
    (h : threads.Pairwise fun a b => (threadOrder platform).le b a = false) :
    (threadOrder platform).Sorted threads := by
  refine h.imp fun {a b} hab => ?_
  rcases (threadOrder platform).total a b with hle | hle
  · exact hle
  · rw [hab] at hle
    cases hle

/-- With an active thread a replay keeps the threads exactly if the last assistant turn does. -/
lemma foldl_threads_eq_iff_of_active {stack : ConversationStackV1}
    (h : StackInOrder platform stack) {thread : ThreadFrameV1}
    (hactive : currentActiveThread stack = some thread) {turns : List ConversationStackTurnV1}
    (hroles : ∀ turn ∈ turns, turn.role = .assistant) :
    (turns.foldl (applyTurn platform sha {}) stack).threads = stack.threads ↔
      LastTouch thread turns := by
  cases turns using List.reverseRecOn with
  | nil => simp [LastTouch]
  | append_singleton turns turn =>
      have hsame := sameUpToTouch_foldl platform sha h.threadsDistinct hactive
        fun t ht => hroles t (List.mem_append_left [turn] ht)
      obtain ⟨moved, hmoved, hkey⟩ := hsame.active h.threadsDistinct hactive
      have hstep := applyTurn_of_active platform sha (hsame.distinct h.threadsDistinct) hmoved
        (hroles turn (by simp))
      have hperm := hsame.threads turn.at (buildResumeHint turn.text)
      have hmem := ((currentActiveThread_eq_some_iff h.threadsDistinct).mp hactive).2.2
      have hlast : LastTouch thread (turns ++ [turn]) ↔
          turn.at = thread.lastTouchedAt ∧ buildResumeHint turn.text = thread.resumeHint := by
        simp [LastTouch]
      rw [List.foldl_append, List.foldl_cons, List.foldl_nil, hstep, hkey, hlast]
      constructor
      · intro hfix
        have hwritten := hmem
        rw [← hfix] at hwritten
        have hthread := hperm.mem_iff.mp ((threadOrder platform).mem_sort.mp hwritten)
        obtain ⟨x, -, hx⟩ := List.mem_map.mp hthread
        have hxkey := congrArg ThreadFrameV1.threadKey hx
        rw [retouch_threadKey] at hxkey
        unfold retouch at hx
        rw [if_pos hxkey] at hx
        exact ⟨by rw [← hx], by rw [← hx]⟩
      · rintro ⟨htime, hhint⟩
        have hid : stack.threads.map
            (retouch thread.threadKey turn.at (buildResumeHint turn.text)) = stack.threads := by
          conv_rhs => rw [← List.map_id stack.threads]
          refine List.map_congr_left fun x hx => ?_
          by_cases hxkey : x.threadKey = thread.threadKey
          · have hxthread : x = thread :=
              threadsByKey.eq_of_distinct h.threadsDistinct hx hmem hxkey
            simp [retouch, hxthread, htime, hhint]
          · simp [retouch, hxkey]
        rw [hid] at hperm
        have hsort := (threadOrder platform).sort_eq_of_perm hperm.symm
          (strict_ties platform h.threadsOrdered)
        have hsorted := (threadOrder platform).sort_of_sorted
          (sorted_of_strict platform h.threadsOrdered)
        exact hsort.symm.trans hsorted

/-! ## A whole replay -/

/-- No dated turn changes the threads and topics of the stack. -/
def ReplayQuiet (stack : ConversationStackV1) (turns : List ConversationStackTurnV1) : Prop :=
  match currentActiveThread stack with
  | some thread =>
      (∀ turn ∈ orderedTurns platform turns, turn.role = .assistant) ∧
        LastTouch thread (orderedTurns platform turns)
  | none =>
      ∀ turn ∈ orderedTurns platform turns, turn.role = .user → Topicless platform sha stack turn

/-- The time a replay leaves on the stack. -/
def replayedAt (stack : ConversationStackV1) (turns : List ConversationStackTurnV1)
    (updatedAt : String) : String :=
  let time := ((orderedTurns platform turns).getLast?.map ConversationStackTurnV1.at).getD
    stack.updatedAt
  if textLt time updatedAt then updatedAt else time

lemma raiseUpdatedAt_eq_iff (stack other : ConversationStackV1) (updatedAt : String) :
    raiseUpdatedAt stack updatedAt = other ↔
      stack.threads = other.threads ∧ stack.topics = other.topics ∧
        stack.activeThreadKey = other.activeThreadKey ∧
        (if textLt stack.updatedAt updatedAt then updatedAt else stack.updatedAt) =
          other.updatedAt := by
  obtain ⟨time, key, threads, topics⟩ := stack
  obtain ⟨time', key', threads', topics'⟩ := other
  unfold raiseUpdatedAt
  split_ifs <;> simp <;> tauto

lemma replayQuiet_iff {stack : ConversationStackV1} (h : StackInOrder platform stack)
    (turns : List ConversationStackTurnV1) :
    ReplayQuiet platform sha stack turns ↔
      ((orderedTurns platform turns).foldl (applyTurn platform sha {}) stack).threads =
          stack.threads ∧
        ((orderedTurns platform turns).foldl (applyTurn platform sha {}) stack).topics =
          stack.topics ∧
        ((orderedTurns platform turns).foldl (applyTurn platform sha {}) stack).activeThreadKey =
          stack.activeThreadKey := by
  unfold ReplayQuiet
  cases hactive : currentActiveThread stack with
  | none =>
      have htopicless : (∀ turn ∈ orderedTurns platform turns, turn.role = .user →
          Topicless platform sha stack turn) ↔
          ∀ turn ∈ orderedTurns platform turns, ¬ Touches platform sha stack turn := by
        refine forall₂_congr fun turn _ => ?_
        have hframe := userTurnFrame_eq_none_iff platform sha stack turn
        unfold Touches
        rw [Option.isSome_iff_ne_none, ne_eq, hframe]
        simp [hactive]
      have htopics :=
        foldl_topics_eq_iff_of_inactive platform sha h.topicsDistinct hactive (orderedTurns platform turns)
      simp only [htopicless]
      constructor
      · intro hquiet
        obtain ⟨time, hfold⟩ := foldl_of_inactive platform sha hactive hquiet
        simp [hfold]
      · exact fun hfix => htopics.mp hfix.2.1
  | some thread =>
      constructor
      · rintro ⟨hroles, hlast⟩
        have hsame := sameUpToTouch_foldl platform sha h.threadsDistinct hactive hroles
        exact ⟨(foldl_threads_eq_iff_of_active platform sha h hactive hroles).mpr hlast,
          hsame.topics, hsame.activeThreadKey⟩
      · rintro ⟨hthreads, htopics, -⟩
        have hroles := assistant_of_foldl_topics platform sha h.threadsDistinct h.topicsDistinct
          hactive htopics
        exact ⟨hroles, (foldl_threads_eq_iff_of_active platform sha h hactive hroles).mp hthreads⟩

/-- A replay over an existing stack gives the same stack exactly if no dated turn moves it and
its time is the one the replay leaves. -/
theorem buildConversationStackFromTurnsV1_eq_iff {stack : ConversationStackV1}
    (h : StackInOrder platform stack) (turns : List ConversationStackTurnV1) (updatedAt : String) :
    buildConversationStackFromTurnsV1 platform sha turns updatedAt {} (some stack) = stack ↔
      ReplayQuiet platform sha stack turns ∧
        replayedAt platform stack turns updatedAt = stack.updatedAt := by
  have hstart : { stack with
      threads := sortThreads platform stack.threads
      topics := sortTopicNodes platform stack.topics } = stack := by
    have hthreads : sortThreads platform stack.threads = stack.threads :=
      (threadOrder platform).sort_of_sorted (sorted_of_strict platform h.threadsOrdered)
    have htopics : sortTopicNodes platform stack.topics = stack.topics :=
      (topicOrder platform).sort_of_sorted h.topicsOrdered
    rw [hthreads, htopics]
  have htime := foldl_applyTurn_updatedAt platform sha (orderedTurns platform turns) stack
  unfold buildConversationStackFromTurnsV1 replayedAt
  simp only [hstart]
  rw [raiseUpdatedAt_eq_iff, htime, replayQuiet_iff platform sha h]
  tauto

end AgentBigBrain.Core

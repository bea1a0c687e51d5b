import AgentBigBrain.Core.ConversationStackReplay
import AgentBigBrain.Core.RuntimeThreads
import AgentBigBrain.Core.TopicInterpretation

/-!
# One active thread

Every turn and every operation on open loops leaves one active thread under the cap. The runtime
actions do not pause the thread that was active, so a pulse that brings in a further thread
leaves two of them active.
-/
namespace AgentBigBrain.Core

open AgentBigBrain.Js AgentBigBrain.Lib

variable (platform : Platform) (sha : Sha256)

/-- The active thread is one of the stack's and the only one in that state, keys are unique, and
the cap holds. -/
structure StackInvariant (maxThreads : ℚ) (stack : ConversationStackV1) : Prop where
  present : ∀ key ∈ stack.activeThreadKey, ∃ thread ∈ stack.threads, thread.threadKey = key
  onlyActive : ∀ key ∈ stack.activeThreadKey, ∀ thread ∈ stack.threads,
    thread.state = .active ↔ thread.threadKey = key
  distinct : threadsByKey.Distinct stack.threads
  bounded : (stack.threads.length : ℚ) ≤ maxThreads

/-- Threads of which the one under the key is active and the others are paused. -/
structure ThreadsSound (key : String) (threads : List ThreadFrameV1) : Prop where
  distinct : threadsByKey.Distinct threads
  present : ∃ thread ∈ threads, thread.threadKey = key
  active : ∀ thread ∈ threads, thread.state = .active ↔ thread.threadKey = key
  unresolved : ∀ thread ∈ threads, thread.state ≠ .resolved

/-- What the turns keep: without an active thread there is none at all. -/
def StackSound (maxThreads : ℚ) (stack : ConversationStackV1) : Prop :=
  (stack.threads.length : ℚ) ≤ maxThreads ∧
    (stack.activeThreadKey = none ∧ stack.threads = [] ∨
      ∃ key, stack.activeThreadKey = some key ∧ ThreadsSound key stack.threads)

lemma StackSound.invariant {maxThreads : ℚ} {stack : ConversationStackV1}
    (h : StackSound maxThreads stack) : StackInvariant maxThreads stack := by
  obtain ⟨hbounded, ⟨hactive, hempty⟩ | ⟨key, hactive, hsound⟩⟩ := h
  · refine ⟨?_, ?_, ?_, hbounded⟩
    · simp [hactive]
    · simp [hactive]
    · rw [hempty]
      exact List.nodup_nil
  · refine ⟨?_, ?_, hsound.distinct, hbounded⟩
    · intro k hk
      rw [hactive] at hk
      cases hk
      exact hsound.present
    · intro k hk
      rw [hactive] at hk
      cases hk
      exact hsound.active

/-! ## Threads -/

variable {platform} {key : String} {threads : List ThreadFrameV1}

lemma distinct_perm {others : List ThreadFrameV1} (h : threads.Perm others)
    (hd : threadsByKey.Distinct threads) : threadsByKey.Distinct others :=
  (h.map _).nodup_iff.mp hd

lemma ThreadsSound.perm {others : List ThreadFrameV1} (h : ThreadsSound key threads)
    (hperm : threads.Perm others) : ThreadsSound key others where
  distinct := distinct_perm hperm h.distinct
  present := by
    obtain ⟨thread, hmem, hkey⟩ := h.present
    exact ⟨thread, hperm.mem_iff.mp hmem, hkey⟩
  active thread hmem := h.active thread (hperm.mem_iff.mpr hmem)
  unresolved thread hmem := h.unresolved thread (hperm.mem_iff.mpr hmem)

/-- A change that leaves keys and states alone keeps the threads sound. -/
lemma ThreadsSound.map {f : ThreadFrameV1 → ThreadFrameV1} (h : ThreadsSound key threads)
    (hkey : ∀ thread, (f thread).threadKey = thread.threadKey)
    (hstate : ∀ thread ∈ threads, (f thread).state = thread.state) :
    ThreadsSound key (threads.map f) where
  distinct := by
    have hkeys : (threads.map f).map threadsByKey.key = threads.map threadsByKey.key := by
      simp [hkey]
    unfold KeyedMerge.Distinct
    rw [hkeys]
    exact h.distinct
  present := by
    obtain ⟨thread, hmem, hthread⟩ := h.present
    exact ⟨f thread, List.mem_map_of_mem hmem, (hkey thread).trans hthread⟩
  active := by
    intro thread hmem
    obtain ⟨x, hx, rfl⟩ := List.mem_map.mp hmem
    rw [hstate x hx, hkey x]
    exact h.active x hx
  unresolved := by
    intro thread hmem
    obtain ⟨x, hx, rfl⟩ := List.mem_map.mp hmem
    rw [hstate x hx]
    exact h.unresolved x hx

variable (platform) in
/-- Making a thread active pauses every other one. -/
lemma setActiveThread_sound (hdistinct : threadsByKey.Distinct threads)
    (hpresent : ∃ thread ∈ threads, thread.threadKey = key)
    (hunresolved : ∀ thread ∈ threads, thread.state ≠ .resolved) :
    ThreadsSound key (setActiveThread platform threads key) := by
  refine ThreadsSound.perm ?_ ((threadOrder platform).sort_perm _).symm
  refine ⟨?_, ?_, ?_, ?_⟩
  · unfold KeyedMerge.Distinct
    rw [List.map_map]
    have hkeys : threads.map (threadsByKey.key ∘ fun thread =>
        if thread.state = .resolved then thread
        else if thread.threadKey = key then { thread with state := .active }
        else { thread with state := .paused }) = threads.map threadsByKey.key := by
      refine List.map_congr_left fun thread _ => ?_
      simp only [Function.comp_apply]
      split_ifs <;> rfl
    rw [hkeys]
    exact hdistinct
  · obtain ⟨thread, hmem, hthread⟩ := hpresent
    refine ⟨_, List.mem_map_of_mem hmem, ?_⟩
    split_ifs
    · exact hthread
    · exact hthread
  · intro thread hmem
    obtain ⟨x, hx, rfl⟩ := List.mem_map.mp hmem
    rw [if_neg (hunresolved x hx)]
    split_ifs with hkey <;> simp [hkey]
  · intro thread hmem
    obtain ⟨x, hx, rfl⟩ := List.mem_map.mp hmem
    rw [if_neg (hunresolved x hx)]
    split_ifs <;> simp

/-! ## Eviction -/

variable (platform threads) in
lemma mem_evictable (activeThreadKey : Option String) {thread : ThreadFrameV1} :
    thread ∈ (evictionOrder platform).sort (threads.filter fun thread =>
        decide (some thread.threadKey ≠ activeThreadKey) && decide (thread.state ≠ .active)) ↔
      thread ∈ threads ∧ some thread.threadKey ≠ activeThreadKey ∧ thread.state ≠ .active := by
  simp [(evictionOrder platform).mem_sort]

lemma evictLoop_sublist (activeThreadKey : Option String) (cap rounds : ℕ)
    (threads : List ThreadFrameV1) :
    (evictLoop platform activeThreadKey cap rounds threads).Sublist threads := by
  induction rounds generalizing threads with
  | zero => exact List.Sublist.refl threads
  | succ rounds ih =>
      unfold evictLoop
      split_ifs
      · exact List.Sublist.refl threads
      · dsimp only
        split
        · exact List.Sublist.refl threads
        · exact (ih _).trans List.eraseP_sublist

lemma mem_erase_key {thread target : ThreadFrameV1} (hmem : thread ∈ threads)
    (hne : thread.threadKey ≠ target.threadKey) :
    thread ∈ threads.eraseP fun thread => decide (thread.threadKey = target.threadKey) := by
  refine (List.mem_eraseP_of_neg (a := thread)
    (p := fun thread => decide (thread.threadKey = target.threadKey)) ?_).mpr hmem
  simpa using hne

/-- The active thread is never given up. -/
lemma mem_evictLoop {activeThreadKey : Option String} {thread : ThreadFrameV1} (cap rounds : ℕ)
    (hkey : some thread.threadKey = activeThreadKey) (hmem : thread ∈ threads) :
    thread ∈ evictLoop platform activeThreadKey cap rounds threads := by
  induction rounds generalizing threads with
  | zero => exact hmem
  | succ rounds ih =>
      unfold evictLoop
      split_ifs
      · exact hmem
      · dsimp only
        split
        · exact hmem
        · rename_i target rest hevictable
          apply ih
          have htarget := (mem_evictable _ _ _).mp (hevictable ▸ List.mem_cons_self)
          refine mem_erase_key hmem fun hsame => ?_
          rw [hsame] at hkey
          exact htarget.2.1 hkey

/-- With one active thread among two or more there is always one to give up. -/
lemma exists_evictable (h : ThreadsSound key threads) (htwo : 1 < threads.length) :
    ∃ thread ∈ threads, thread.threadKey ≠ key ∧ thread.state ≠ .active := by
  by_contra hnone
  push Not at hnone
  have hkeys : ∀ thread ∈ threads, thread.threadKey = key := by
    intro thread hmem
    by_contra hkey
    exact hkey ((h.active thread hmem).mp (hnone thread hmem hkey))
  match threads, htwo with
  | a :: b :: rest, _ =>
      have hab : a.threadKey = b.threadKey :=
        (hkeys a (by simp)).trans (hkeys b (by simp)).symm
      have hnodup := h.distinct
      unfold KeyedMerge.Distinct at hnodup
      simp [hab] at hnodup

lemma ThreadsSound.of_sublist {others : List ThreadFrameV1} (h : ThreadsSound key threads)
    (hsub : others.Sublist threads) (hpresent : ∃ thread ∈ others, thread.threadKey = key) :
    ThreadsSound key others where
  distinct := List.Nodup.sublist (hsub.map _) h.distinct
  present := hpresent
  active thread hmem := h.active thread (hsub.subset hmem)
  unresolved thread hmem := h.unresolved thread (hsub.subset hmem)

lemma ThreadsSound.eraseP {target : ThreadFrameV1} (h : ThreadsSound key threads)
    (hne : target.threadKey ≠ key) :
    ThreadsSound key (threads.eraseP fun thread => decide (thread.threadKey = target.threadKey)) := by
  refine h.of_sublist List.eraseP_sublist ?_
  obtain ⟨thread, hmem, hthread⟩ := h.present
  refine ⟨thread, mem_erase_key hmem ?_, hthread⟩
  rw [hthread]
  exact Ne.symm hne

variable (platform) in
/-- Enough rounds bring the threads under the cap. -/
lemma length_evictLoop_le {cap : ℕ} (hcap : 1 ≤ cap) (rounds : ℕ) (h : ThreadsSound key threads)
    (hrounds : threads.length ≤ rounds) :
    (evictLoop platform (some key) cap rounds threads).length ≤ cap := by
  induction rounds generalizing threads with
  | zero =>
      unfold evictLoop
      omega
  | succ rounds ih =>
      unfold evictLoop
      split_ifs with hlength
      · exact hlength
      · obtain ⟨thread, hmem, hkey, hstate⟩ := exists_evictable h (by omega)
        have hevictable := (mem_evictable platform threads (some key)).mpr ⟨hmem, by simpa using hkey, hstate⟩
        dsimp only
        split
        · rename_i hnil
          rw [hnil] at hevictable
          cases hevictable
        · rename_i target rest hcons
          have htarget := (mem_evictable _ _ _).mp (hcons ▸ List.mem_cons_self)
          have hne : target.threadKey ≠ key := by simpa using htarget.2.1
          apply ih (h.eraseP hne)
          have herase := List.length_eraseP_of_mem
            (p := fun thread => decide (thread.threadKey = target.threadKey)) htarget.1 (by simp)
          omega

/-! ## Turns -/

variable (platform) in
lemma evictThreadsOverCap_sound (h : ThreadsSound key threads) {maxThreads : ℚ}
    (hcap : 1 ≤ maxThreads) :
    ThreadsSound key (evictThreadsOverCap platform threads (some key) maxThreads) ∧
      ((evictThreadsOverCap platform threads (some key) maxThreads).length : ℚ) ≤ maxThreads := by
  have hfloor : (1 : ℤ) ≤ ⌊maxThreads⌋ := Int.le_floor.mpr (by exact_mod_cast hcap)
  have hmax : max 1 ⌊maxThreads⌋.toNat = ⌊maxThreads⌋.toNat := by omega
  have hle : ((⌊maxThreads⌋.toNat : ℤ) : ℚ) ≤ maxThreads := by
    rw [Int.toNat_of_nonneg (by omega)]
    exact Int.floor_le maxThreads
  have hperm := ((threadOrder platform).sort_perm (evictLoop platform (some key)
    ⌊maxThreads⌋.toNat threads.length threads)).symm
  unfold evictThreadsOverCap
  simp only [hmax]
  constructor
  · refine ThreadsSound.perm ?_ hperm
    apply h.of_sublist (evictLoop_sublist _ _ _ _)
    obtain ⟨thread, hmem, hthread⟩ := h.present
    exact ⟨thread, mem_evictLoop _ _ (congrArg some hthread) hmem, hthread⟩
  · have hlength := length_evictLoop_le platform (show 1 ≤ ⌊maxThreads⌋.toNat by omega)
      threads.length h le_rfl
    rw [sortThreads, ← hperm.length_eq]
    exact le_trans (by exact_mod_cast hlength) hle

lemma unresolved_copyThreadsByKey (h : ∀ thread ∈ threads, thread.state ≠ .resolved) :
    ∀ thread ∈ copyThreadsByKey threads, thread.state ≠ .resolved :=
  threadsByKey.forall_collect (by simp) h fun _ _ _ _ hnew => hnew

lemma touchThread_sound {options : ApplyConversationTurnOptionsV1} {stack : ConversationStackV1}
    {frame : ThreadFrameV1} (time : String) (hcap : 1 ≤ options.maxThreads)
    (hstack : ∀ thread ∈ stack.threads, thread.state ≠ .resolved) (hframe : frame.state ≠ .resolved) :
    StackSound options.maxThreads (touchThread platform options stack frame time) := by
  have hcopy := unresolved_copyThreadsByKey hstack
  have hdistinct : threadsByKey.Distinct
      (threadsByKey.upsert frame (copyThreadsByKey stack.threads)) :=
    threadsByKey.distinct_upsert (threadsByKey.distinct_collect List.nodup_nil)
  have hpresent : ∃ thread ∈ threadsByKey.upsert frame (copyThreadsByKey stack.threads),
      thread.threadKey = frame.threadKey :=
    List.mem_map.mp (threadsByKey.mem_keys_upsert.mpr (Or.inl rfl))
  have hunresolved := threadsByKey.forall_upsert (x := frame) hcopy (fun _ => hframe)
    fun _ _ _ => hframe
  obtain ⟨hsound, hlength⟩ := evictThreadsOverCap_sound platform
    (setActiveThread_sound platform hdistinct hpresent hunresolved) hcap
  exact ⟨hlength, Or.inr ⟨frame.threadKey, rfl, hsound⟩⟩

variable {stack : ConversationStackV1} (h : ∀ thread ∈ stack.threads, thread.state ≠ .resolved)
include h

lemma currentActiveThread_unresolved {thread : ThreadFrameV1}
    (hactive : currentActiveThread stack = some thread) : thread.state ≠ .resolved := by
  unfold currentActiveThread at hactive
  split at hactive
  · split_ifs at hactive
    exact unresolved_copyThreadsByKey h _ (threadsByKey.mem_of_find hactive).1
  · cases hactive

lemma kept_unresolved {time hint : String} {frame : ThreadFrameV1}
    (hframe : (currentActiveThread stack).map (fun thread =>
      { thread with lastTouchedAt := time, resumeHint := hint }) = some frame) :
    frame.state ≠ .resolved := by
  obtain ⟨thread, hactive, rfl⟩ := Option.map_eq_some_iff.mp hframe
  have hthread := currentActiveThread_unresolved h hactive
  exact hthread

lemma threadOfTopic_unresolved (winner : TopicKeyCandidateV1) (time hint : String) :
    (threadOfTopic platform sha stack winner time hint).state ≠ .resolved := by
  unfold threadOfTopic
  split
  · rename_i thread hfound
    have hthread := unresolved_copyThreadsByKey h thread (List.mem_of_find?_eq_some hfound)
    cases hstate : thread.state <;> simp [activeUnlessResolved, hstate] at hthread ⊢
  · simp [buildThreadFromTopicCandidate]

lemma userTurnFrame_unresolved {options : ApplyConversationTurnOptionsV1}
    {turn : ConversationStackTurnV1} {frame : ThreadFrameV1}
    (hframe : userTurnFrame platform sha options stack turn = some frame) :
    frame.state ≠ .resolved := by
  unfold userTurnFrame at hframe
  split at hframe
  · rename_i thread hmission
    cases hframe
    unfold missionThread at hmission
    split at hmission
    · split_ifs at hmission
      have hthread := unresolved_copyThreadsByKey h _ (threadsByKey.mem_of_find hmission).1
      cases hstate : thread.state <;> simp [activeUnlessResolved, hstate] at hthread ⊢
    · cases hmission
  · dsimp only at hframe
    split at hframe
    · cases hframe
      simp
    · split_ifs at hframe with hstays
      · exact kept_unresolved h hframe
      · split at hframe
        · cases hframe
          exact threadOfTopic_unresolved sha h _ _ _
        · exact kept_unresolved h hframe

lemma interpretedFrame_unresolved {options : ApplyConversationTurnOptionsV1}
    {interpretation : Option TopicKeyInterpretationSignalV1} {turn : ConversationStackTurnV1}
    {frame : ThreadFrameV1}
    (hframe : interpretedFrame platform sha options interpretation stack turn = some (some frame)) :
    frame.state ≠ .resolved := by
  unfold interpretedFrame at hframe
  dsimp only at hframe
  split at hframe
  · exact userTurnFrame_unresolved sha h (Option.some.inj hframe)
  · split at hframe
    · exact kept_unresolved h (Option.some.inj hframe)
    · cases hframe
      simp
    · split_ifs at hframe with hstays
      · exact kept_unresolved h (Option.some.inj hframe)
      · obtain ⟨winner, -, hwinner⟩ := Option.map_eq_some_iff.mp hframe
        cases hwinner
        exact threadOfTopic_unresolved sha h _ _ _
    · exact userTurnFrame_unresolved sha h (Option.some.inj hframe)

omit h

/-! ## Open loops -/

/-- Rewriting a thread under its key and state keeps the threads sound. -/
lemma ThreadsSound.set {index : ℕ} {thread : ThreadFrameV1} (h : ThreadsSound key threads)
    (next : ThreadFrameV1) (hget : threads[index]? = some thread) (hkey : next.threadKey = thread.threadKey)
    (hstate : next.state = thread.state) : ThreadsSound key (threads.set index next) := by
  obtain ⟨hlt, hthread⟩ := List.getElem?_eq_some_iff.mp hget
  have hmem : thread ∈ threads := hthread ▸ List.getElem_mem hlt
  have hkeys : (threads.set index next).map threadsByKey.key = threads.map threadsByKey.key := by
    have hbound : index < (threads.map threadsByKey.key).length := by simpa using hlt
    have hsame : threadsByKey.key next = (threads.map threadsByKey.key)[index] := by
      simp [hthread, hkey]
    rw [List.map_set, hsame, List.set_getElem_self]
  refine ⟨?_, ?_, ?_, ?_⟩
  · unfold KeyedMerge.Distinct
    rw [hkeys]
    exact h.distinct
  · have hpresent : key ∈ (threads.set index next).map threadsByKey.key := by
      rw [hkeys]
      exact List.mem_map.mpr h.present
    exact List.mem_map.mp hpresent
  · intro x hx
    rcases List.mem_or_eq_of_mem_set hx with hx | rfl
    · exact h.active x hx
    · rw [hstate, hkey]
      exact h.active thread hmem
  · intro x hx
    rcases List.mem_or_eq_of_mem_set hx with hx | rfl
    · exact h.unresolved x hx
    · rw [hstate]
      exact h.unresolved thread hmem

/-- Rewriting the loops of a thread of the stack keeps it sound. -/
lemma withLoopsOf_sound {maxThreads : ℚ} {threadKey : String} {thread : ThreadFrameV1}
    (h : StackSound maxThreads stack)
    (hfound : stack.threads.find? (fun entry => entry.threadKey = threadKey) = some thread)
    (openLoops : List OpenLoopV1) (time : String) :
    StackSound maxThreads (withLoopsOf platform stack thread openLoops time) := by
  obtain ⟨hbounded, ⟨-, hempty⟩ | ⟨key, hactive, hsound⟩⟩ := h
  · rw [hempty] at hfound
    cases hfound
  · have hkey : thread.threadKey = threadKey := by simpa using List.find?_some hfound
    have hget : stack.threads[stack.threads.findIdx fun entry =>
        entry.threadKey = thread.threadKey]? = some thread := by
      rw [hkey, ← List.find?_eq_getElem?_findIdx]
      exact hfound
    have hset := hsound.set { thread with
      openLoops := sortOpenLoops platform openLoops, lastTouchedAt := time } hget rfl rfl
    have hperm := ((threadOrder platform).sort_perm (stack.threads.set
      (stack.threads.findIdx fun entry => entry.threadKey = thread.threadKey)
      { thread with
        openLoops := sortOpenLoops platform openLoops, lastTouchedAt := time })).symm
    refine ⟨?_, Or.inr ⟨key, hactive, hset.perm hperm⟩⟩
    unfold withLoopsOf sortThreads
    rw [← hperm.length_eq, List.length_set]
    exact hbounded

/-! ## Runs -/

/-- What happens to a stack. The threads' cap is one for the whole run. -/
inductive StackOperation where
  | userTurn (turn : ConversationStackTurnV1) (activeMissionThreadKey : Option String)
      (topicSwitchThreshold : ℚ) (interpretation : Option TopicKeyInterpretationSignalV1)
  | assistantTurn (turn : ConversationStackTurnV1)
  | upsertOpenLoop (input : UpsertOpenLoopInputV1)
  | resolveOpenLoop (input : ResolveOpenLoopInputV1)
  | createThread (threadKey : Option String) (observedAt : String)
  | topicResume (threadKey : Option String) (observedAt : String)

variable (platform) in
/-- The stack after an operation, `none` when it throws. -/
def StackOperation.apply (maxThreads : ℚ) (stack : ConversationStackV1) :
    StackOperation → Option ConversationStackV1
  | .userTurn turn activeMissionThreadKey topicSwitchThreshold interpretation =>
      applyInterpretedUserTurn platform sha
        ⟨activeMissionThreadKey, maxThreads, topicSwitchThreshold⟩ interpretation stack turn
  | .assistantTurn turn =>
      if (platform.dateParse turn.at).isNone then none
      else some (applyAssistantTurnToConversationStackV1 platform stack turn)
  | .upsertOpenLoop input => upsertOpenLoopOnConversationStackV1 platform sha stack input
  | .resolveOpenLoop input => resolveOpenLoopOnConversationStackV1 platform stack input
  | .createThread threadKey observedAt =>
      some (ensureThread stack (runtimeThreadKey stack threadKey OPEN_LOOP_THREAD_KEY) observedAt)
  | .topicResume threadKey observedAt =>
      some (AgentBigBrain.Core.topicResume stack
        (runtimeThreadKey stack threadKey TOPIC_THREAD_KEY) observedAt)

variable (platform) in
/-- A run from the empty stack; an operation that throws leaves the stack as it was. -/
def runStack (maxThreads : ℚ) (updatedAt : String) (operations : List StackOperation) :
    ConversationStackV1 :=
  operations.foldl (fun stack operation =>
      (operation.apply platform sha maxThreads stack).getD stack)
    (createEmptyConversationStackV1 updatedAt)

/-- A runtime action brings in no second active thread: the thread a pulse creates is the first
or is there already, and the topic it resumes is the first or the active one. -/
def AddsNoActive (stack : ConversationStackV1) : StackOperation → Prop
  | .createThread threadKey _ => stack.threads = [] ∨
      ∃ thread ∈ stack.threads,
        thread.threadKey = runtimeThreadKey stack threadKey OPEN_LOOP_THREAD_KEY
  | .topicResume threadKey _ => stack.threads = [] ∨
      stack.activeThreadKey = some (runtimeThreadKey stack threadKey TOPIC_THREAD_KEY)
  | _ => True

lemma StackSound.unresolved {maxThreads : ℚ} (h : StackSound maxThreads stack) :
    ∀ thread ∈ stack.threads, thread.state ≠ .resolved := by
  obtain ⟨-, ⟨-, hempty⟩ | ⟨key, -, hsound⟩⟩ := h
  · rw [hempty]
    simp
  · exact hsound.unresolved

include sha in
lemma assistantTurn_sound {maxThreads : ℚ} (h : StackSound maxThreads stack)
    (turn : ConversationStackTurnV1) :
    StackSound maxThreads (applyAssistantTurnToConversationStackV1 platform stack turn) := by
  cases hcurrent : currentActiveThread stack with
  | none =>
      unfold applyAssistantTurnToConversationStackV1
      rw [hcurrent]
      exact h
  | some thread =>
      obtain ⟨hbounded, ⟨-, hempty⟩ | ⟨key, hactive, hsound⟩⟩ := h
      · unfold currentActiveThread copyThreadsByKey at hcurrent
        rw [hempty] at hcurrent
        simp only [KeyedMerge.collect, KeyedMerge.find, List.foldl_nil, List.find?_nil,
          ite_self] at hcurrent
        split at hcurrent <;> cases hcurrent
      · obtain ⟨role, text, time⟩ := turn
        have hstep : applyTurn platform sha {} stack ⟨.assistant, text, time⟩ = _ :=
          applyTurn_of_active platform sha hsound.distinct hcurrent rfl
        have happly : applyAssistantTurnToConversationStackV1 platform stack ⟨role, text, time⟩ =
            applyTurn platform sha {} stack ⟨.assistant, text, time⟩ := rfl
        have hretouch := hsound.map (f := retouch thread.threadKey time (buildResumeHint text))
          (retouch_threadKey _ _ _) fun x _ => by unfold retouch; split_ifs <;> rfl
        have hperm := ((threadOrder platform).sort_perm (stack.threads.map
          (retouch thread.threadKey time (buildResumeHint text)))).symm
        rw [happly, hstep]
        refine ⟨?_, Or.inr ⟨key, hactive, hretouch.perm hperm⟩⟩
        rw [sortThreads, ← hperm.length_eq, List.length_map]
        exact hbounded

/-- A created thread is the only one if there was none. -/
lemma ensureThread_sound {maxThreads : ℚ} (hcap : 1 ≤ maxThreads) (h : StackSound maxThreads stack)
    {key : String} (hkey : stack.threads = [] ∨ ∃ thread ∈ stack.threads, thread.threadKey = key)
    (time : String) : StackSound maxThreads (ensureThread stack key time) := by
  unfold ensureThread
  split_ifs with hpresent
  · exact h
  · have hempty : stack.threads = [] := by
      rcases hkey with hempty | ⟨thread, hmem, hthread⟩
      · exact hempty
      · exact absurd (List.any_eq_true.mpr ⟨thread, hmem, by simpa using hthread⟩) hpresent
    obtain ⟨-, ⟨hactive, -⟩ | ⟨k, -, hsound⟩⟩ := h
    · refine ⟨by simpa [hempty] using hcap, Or.inr ⟨key, by simp [hactive], ?_⟩⟩
      rw [hempty, List.nil_append]
      refine ⟨List.nodup_singleton _, ⟨_, List.mem_singleton_self _, rfl⟩, ?_, ?_⟩
      · intro thread hmem
        rw [List.mem_singleton.mp hmem]
        simp [runtimeThread]
      · intro thread hmem
        rw [List.mem_singleton.mp hmem]
        simp [runtimeThread]
    · obtain ⟨thread, hmem, -⟩ := hsound.present
      rw [hempty] at hmem
      cases hmem

lemma resumeThread_threadKey (key time : String) (thread : ThreadFrameV1) :
    (resumeThread key time thread).threadKey = thread.threadKey := by
  unfold resumeThread
  split_ifs <;> rfl

lemma topicResume_sound {maxThreads : ℚ} (hcap : 1 ≤ maxThreads) (h : StackSound maxThreads stack)
    {key : String} (hkey : stack.threads = [] ∨ stack.activeThreadKey = some key) (time : String) :
    StackSound maxThreads (topicResume stack key time) := by
  have hpresent : stack.threads = [] ∨ ∃ thread ∈ stack.threads, thread.threadKey = key := by
    rcases hkey with hempty | hactive
    · exact Or.inl hempty
    · exact Or.inr (h.invariant.present key hactive)
  have hensured := ensureThread_sound hcap h hpresent time
  have hactive : (ensureThread stack key time).activeThreadKey = some key := by
    obtain ⟨-, ⟨hnone, hempty⟩ | ⟨k, hsome, hsound⟩⟩ := h
    · simp [ensureThread, hempty, hnone]
    · rcases hkey with hempty | hactive
      · obtain ⟨thread, hmem, -⟩ := hsound.present
        rw [hempty] at hmem
        cases hmem
      · unfold ensureThread
        split_ifs
        · exact hactive
        · simp [hactive]
  obtain ⟨hbounded, ⟨hnone, -⟩ | ⟨k, hsome, hsound⟩⟩ := hensured
  · rw [hactive] at hnone
    cases hnone
  · rw [hactive] at hsome
    cases hsome
    refine ⟨by simpa [topicResume] using hbounded, Or.inr ⟨key, rfl, ?_⟩⟩
    refine hsound.map (resumeThread_threadKey key time) fun thread hmem => ?_
    unfold resumeThread
    split_ifs with hthread
    · exact ((hsound.active thread hmem).mpr hthread).symm
    · rfl

/-- Every operation keeps the stack sound, a runtime action if it adds no active thread. -/
theorem apply_sound {maxThreads : ℚ} (hcap : 1 ≤ maxThreads) (h : StackSound maxThreads stack)
    {operation : StackOperation} (hadds : AddsNoActive stack operation)
    {next : ConversationStackV1} (hnext : operation.apply platform sha maxThreads stack = some next) :
    StackSound maxThreads next := by
  cases operation with
  | userTurn turn activeMissionThreadKey topicSwitchThreshold interpretation =>
      unfold StackOperation.apply applyInterpretedUserTurn at hnext
      dsimp only at hnext
      split at hnext
      · cases hnext
      · obtain ⟨frame, hframe, rfl⟩ := Option.map_eq_some_iff.mp hnext
        cases frame with
        | none => exact h
        | some frame =>
            exact touchThread_sound _ hcap h.unresolved
              (interpretedFrame_unresolved sha h.unresolved hframe)
  | assistantTurn turn =>
      unfold StackOperation.apply at hnext
      dsimp only at hnext
      split at hnext
      · cases hnext
      · cases hnext
        exact assistantTurn_sound sha h turn
  | upsertOpenLoop input =>
      unfold StackOperation.apply upsertOpenLoopOnConversationStackV1 at hnext
      dsimp only at hnext
      split at hnext
      · cases hnext
      · split at hnext
        · cases hnext
          exact h
        · split at hnext
          · cases hnext
            exact h
          · split at hnext
            · cases hnext
              exact h
            · rename_i hfound
              cases hnext
              exact withLoopsOf_sound h hfound _ _
  | resolveOpenLoop input =>
      unfold StackOperation.apply resolveOpenLoopOnConversationStackV1 at hnext
      dsimp only at hnext
      split at hnext
      · cases hnext
      · split at hnext
        · cases hnext
          exact h
        · rename_i hfound
          split at hnext
          · cases hnext
            exact h
          · cases hnext
            exact withLoopsOf_sound h hfound _ _
  | createThread threadKey observedAt =>
      cases hnext
      exact ensureThread_sound hcap h hadds observedAt
  | topicResume threadKey observedAt =>
      cases hnext
      exact topicResume_sound hcap h hadds observedAt

/-! ## Two active threads -/

/-- A thread that is active next to the active thread breaks the invariant. -/
lemma not_invariant_of_second {maxThreads : ℚ} {key : String} {thread : ThreadFrameV1}
    (hactive : stack.activeThreadKey = some key) (hmem : thread ∈ stack.threads)
    (hstate : thread.state = .active) (hne : thread.threadKey ≠ key) :
    ¬ StackInvariant maxThreads stack :=
  fun h => hne ((h.onlyActive key hactive thread hmem).mp hstate)

lemma ensureThread_of_absent {key : String}
    (habsent : ∀ thread ∈ stack.threads, thread.threadKey ≠ key) (time : String) :
    ensureThread stack key time =
      { updatedAt := time
        activeThreadKey := some (stack.activeThreadKey.getD key)
        threads := stack.threads ++ [runtimeThread key time]
        topics := stack.topics ++ [runtimeTopic key time] } := by
  unfold ensureThread
  rw [if_neg]
  simpa using habsent

/-- The thread that was active is active after another topic is resumed. -/
lemma topicResume_broken {maxThreads : ℚ} {key active : String}
    (hactive : ThreadsSound active stack.threads) (hne : active ≠ key) (time : String) :
    ¬ StackInvariant maxThreads (topicResume stack key time) := by
  obtain ⟨thread, hmem, hthread⟩ := hactive.present
  have hstate := (hactive.active thread hmem).mpr hthread
  have hensured : thread ∈ (ensureThread stack key time).threads := by
    unfold ensureThread
    split_ifs
    · exact hmem
    · exact List.mem_append_left _ hmem
  have hkept : resumeThread key time thread = thread := by
    unfold resumeThread
    rw [if_neg]
    rw [hthread]
    exact hne
  refine not_invariant_of_second rfl ?_ hstate (by rwa [hthread])
  exact List.mem_map.mpr ⟨thread, hensured, hkept⟩

variable (platform) in
/-- A runtime action that adds an active thread breaks the invariant. -/
theorem apply_broken {maxThreads : ℚ} (h : StackSound maxThreads stack)
    {operation : StackOperation} (hadds : ¬ AddsNoActive stack operation) :
    ¬ StackInvariant maxThreads
      ((operation.apply platform sha maxThreads stack).getD stack) := by
  cases operation with
  | createThread threadKey observedAt =>
      unfold AddsNoActive at hadds
      rw [not_or] at hadds
      obtain ⟨-, ⟨-, hempty⟩ | ⟨active, hactive, hsound⟩⟩ := h
      · exact absurd hempty hadds.1
      · have habsent : ∀ thread ∈ stack.threads, thread.threadKey ≠
            runtimeThreadKey stack threadKey OPEN_LOOP_THREAD_KEY :=
          fun thread hmem hthread => hadds.2 ⟨thread, hmem, hthread⟩
        have hcreated := ensureThread_of_absent habsent observedAt
        obtain ⟨thread, hmem, hthread⟩ := hsound.present
        unfold StackOperation.apply
        rw [Option.getD_some, hcreated]
        refine not_invariant_of_second
          (show some (stack.activeThreadKey.getD _) = some active by simp [hactive])
          (List.mem_append_right _ (List.mem_singleton_self _)) rfl ?_
        intro hsame
        apply habsent thread hmem
        rw [hthread]
        exact hsame.symm
  | topicResume threadKey observedAt =>
      unfold AddsNoActive at hadds
      rw [not_or] at hadds
      obtain ⟨-, ⟨-, hempty⟩ | ⟨active, hactive, hsound⟩⟩ := h
      · exact absurd hempty hadds.1
      · refine topicResume_broken hsound ?_ observedAt
        intro hsame
        apply hadds.2
        rw [hactive, hsame]
  | userTurn | assistantTurn | upsertOpenLoop | resolveOpenLoop => exact absurd trivial hadds

/-! ## The invariant over a run -/

lemma runStack_append (maxThreads : ℚ) (updatedAt : String) (operations : List StackOperation)
    (operation : StackOperation) :
    runStack platform sha maxThreads updatedAt (operations ++ [operation]) =
      (operation.apply platform sha maxThreads
        (runStack platform sha maxThreads updatedAt operations)).getD
          (runStack platform sha maxThreads updatedAt operations) := by
  simp [runStack, List.foldl_append]

variable (platform) in
/-- No step of the run adds an active thread. -/
def RunAddsNoActive (maxThreads : ℚ) (updatedAt : String) (operations : List StackOperation) :
    Prop :=
  ∀ earlier operation, earlier ++ [operation] <+: operations →
    AddsNoActive (runStack platform sha maxThreads updatedAt earlier) operation

lemma runStack_sound {maxThreads : ℚ} (hcap : 1 ≤ maxThreads) (updatedAt : String)
    {operations : List StackOperation}
    (hadds : RunAddsNoActive platform sha maxThreads updatedAt operations) :
    StackSound maxThreads (runStack platform sha maxThreads updatedAt operations) := by
  induction operations using List.reverseRecOn with
  | nil =>
      refine ⟨?_, Or.inl ⟨rfl, rfl⟩⟩
      exact le_trans (by simp [runStack, createEmptyConversationStackV1]) hcap
  | append_singleton operations operation ih =>
      have hsound := ih fun earlier step hstep =>
        hadds earlier step (hstep.trans (List.prefix_append _ _))
      rw [runStack_append]
      cases hnext : operation.apply platform sha maxThreads
          (runStack platform sha maxThreads updatedAt operations) with
      | none => exact hsound
      | some next =>
          exact apply_sound sha hcap hsound (hadds operations operation List.prefix_rfl) hnext

/-- In a run from the empty stack every state has its one active thread under the cap exactly if
no step is a runtime action that adds an active thread. -/
theorem stackInvariant_of_run_iff (platform : Platform) (sha : Sha256) {maxThreads : ℚ}
    (hcap : 1 ≤ maxThreads) (updatedAt : String) (operations : List StackOperation) :
    (∀ reached, reached <+: operations →
        StackInvariant maxThreads (runStack platform sha maxThreads updatedAt reached)) ↔
      RunAddsNoActive platform sha maxThreads updatedAt operations := by
  constructor
  · intro hinvariant
    induction operations using List.reverseRecOn with
    | nil =>
        intro earlier operation hleads
        have hlength := hleads.length_le
        simp at hlength
    | append_singleton operations last ih =>
        have hearlier := ih fun reached hreached =>
          hinvariant reached (hreached.trans (List.prefix_append _ _))
        intro earlier operation hleads
        rcases List.prefix_concat_iff.mp hleads with hsame | hbefore
        · obtain ⟨rfl, hlast⟩ := List.append_inj' hsame rfl
          cases hlast
          by_contra hadds
          have hbroken := apply_broken platform sha
            (runStack_sound sha hcap updatedAt hearlier) hadds
          rw [← runStack_append] at hbroken
          exact hbroken (hinvariant _ List.prefix_rfl)
        · exact hearlier earlier operation hbefore
  · intro hadds reached hreached
    exact (runStack_sound sha hcap updatedAt fun earlier operation hstep =>
      hadds earlier operation (hstep.trans hreached)).invariant

/-! ## A pulse on a second thread -/

def pulsePlatform : Platform :=
  .ofDates [("2026-01-01T00:00:00.000Z", 1767225600000)]

def pulseSha : Sha256 :=
  Sha256.ofTable [] (by decide)

def budgetPulse : StackOperation :=
  .createThread (some "thread_budget") "2026-01-01T00:00:00.000Z"

def travelPulse : StackOperation :=
  .topicResume (some "thread_travel") "2026-01-01T00:00:00.000Z"

theorem stackInvariant_of_run_iff_of_pulse :
    (1 : ℚ) ≤ 12 ∧ ((∀ reached, reached <+: [budgetPulse] →
        StackInvariant 12 (runStack pulsePlatform pulseSha 12 "2026-01-01T00:00:00.000Z" reached)) ↔
      RunAddsNoActive pulsePlatform pulseSha 12 "2026-01-01T00:00:00.000Z" [budgetPulse]) :=
  ⟨by norm_num, stackInvariant_of_run_iff pulsePlatform pulseSha (by norm_num) _ _⟩

/-- Resuming a topic on a new thread leaves the earlier thread active as well. -/
theorem resumed_topic_leaves_two_active :
    let stack := runStack pulsePlatform pulseSha 12 "2026-01-01T00:00:00.000Z"
      [budgetPulse, travelPulse]
    stack.activeThreadKey = some "thread_travel" ∧
      (stack.threads.map fun thread => (thread.threadKey, thread.state)) =
        [("thread_budget", .active), ("thread_travel", .active)] ∧
      ¬ StackInvariant 12 stack := by
  refine ⟨rfl, by decide, ?_⟩
  intro h
  have hbudget := (h.onlyActive "thread_travel" rfl
    (runtimeThread "thread_budget" "2026-01-01T00:00:00.000Z") (by decide)).mp rfl
  revert hbudget
  decide

end AgentBigBrain.Core

import AgentBigBrain.Core.OpenLoops

/-!
# What upserts and resolutions keep

A stack is accepted whatever its loops are. Loops with ids of their own, the key of their thread
and a priority between 0 and 1 stay such along every run of calls, a call rewrites one thread at
most, and only a text with the id of a loop opens that loop again.
-/
namespace AgentBigBrain.Core

open AgentBigBrain.Js AgentBigBrain.Lib

variable (platform : Platform) (sha : Sha256)

/-! ## Calls -/

inductive OpenLoopCall where
  | upsert (input : UpsertOpenLoopInputV1)
  | resolve (input : ResolveOpenLoopInputV1)

namespace OpenLoopCall

def threadKey : OpenLoopCall → String
  | upsert input => input.threadKey
  | resolve input => input.threadKey

/-- The id of the loop a call is about; a text that triggers nothing has none. -/
def loopId : OpenLoopCall → Option String
  | upsert input =>
      (detectOpenLoopTriggerV1 platform input.text).bind fun trigger =>
        if trigger.2 = "" then none
        else some (buildOpenLoopIdV1 platform sha input.threadKey trigger.2)
  | resolve input => some input.loopId

/-- The status a call leaves its loop in. -/
def status : OpenLoopCall → OpenLoopStatus
  | upsert _ => .unresolved
  | resolve input => input.status

def apply (stack : ConversationStackV1) : OpenLoopCall → Option ConversationStackV1
  | upsert input => upsertOpenLoopOnConversationStackV1 platform sha stack input
  | resolve input => resolveOpenLoopOnConversationStackV1 platform stack input

end OpenLoopCall

/-- The stack a caller holds after a call; a call that throws leaves it as it was. -/
def afterCall (stack : ConversationStackV1) (call : OpenLoopCall) : ConversationStackV1 :=
  (call.apply platform sha stack).getD stack

def afterCalls (stack : ConversationStackV1) (calls : List OpenLoopCall) : ConversationStackV1 :=
  calls.foldl (afterCall platform sha) stack

/-! ## What is kept -/

def UniqueLoopIds (stack : ConversationStackV1) : Prop :=
  ∀ thread ∈ stack.threads, (thread.openLoops.map OpenLoopV1.loopId).Nodup

def LoopsOfTheirThread (stack : ConversationStackV1) : Prop :=
  ∀ thread ∈ stack.threads, ∀ loop ∈ thread.openLoops, loop.threadKey = thread.threadKey

def PrioritiesBounded (stack : ConversationStackV1) : Prop :=
  ∀ thread ∈ stack.threads, ∀ loop ∈ thread.openLoops, 0 ≤ loop.priority ∧ loop.priority ≤ 1

/-- No loop of the thread's key and the id is waiting. -/
def LoopClosed (threadKey loopId : String) (stack : ConversationStackV1) : Prop :=
  ∀ thread ∈ stack.threads, thread.threadKey = threadKey →
    ∀ loop ∈ thread.openLoops, loop.loopId = loopId → loop.status ≠ .unresolved

def firstOfKey (stack : ConversationStackV1) (threadKey : String) : Option ThreadFrameV1 :=
  stack.threads.find? fun thread => thread.threadKey = threadKey

/-- The call has no trigger, no thread, or, as a resolution, no loop. -/
def MatchesNothing (stack : ConversationStackV1) (call : OpenLoopCall) : Prop :=
  match call with
  | .upsert input => call.loopId platform sha = none ∨ firstOfKey stack input.threadKey = none
  | .resolve input => ∀ thread ∈ firstOfKey stack input.threadKey,
      ∀ loop ∈ thread.openLoops, loop.loopId ≠ input.loopId

/-- The threads are the ones before, in some order, but for the loops and the time of one. -/
structure OneThreadRewritten (threadKey : String) (before after : ConversationStackV1) : Prop where
  active : after.activeThreadKey = before.activeThreadKey
  topics : after.topics = before.topics
  threads : after.threads.Perm before.threads ∨
    ∃ thread next, firstOfKey before threadKey = some thread ∧
      after.threads.Perm (before.threads.set
        (before.threads.findIdx fun entry => entry.threadKey = threadKey) next) ∧
      next = { thread with openLoops := next.openLoops, lastTouchedAt := next.lastTouchedAt }

/-! ## The loops of the thread -/

lemma clampPriority_bounds (value : ℚ) : 0 ≤ clampPriority value ∧ clampPriority value ≤ 1 := by
  have hlow : (0 : ℚ) ≤ min 1 (max 0 value) := le_min (by norm_num) (le_max_left 0 value)
  have hhigh : min 1 (max 0 value) ≤ (1 : ℚ) := min_le_left 1 _
  unfold clampPriority roundTo
  constructor
  · have hfloor : 0 ≤ ⌊min 1 (max 0 value) * 10 ^ 4 + 1 / 2⌋ := Int.floor_nonneg.mpr (by positivity)
    have hcast : (0 : ℚ) ≤ (⌊min 1 (max 0 value) * 10 ^ 4 + 1 / 2⌋ : ℤ) := by exact_mod_cast hfloor
    positivity
  · have hfloor : ⌊min 1 (max 0 value) * 10 ^ 4 + 1 / 2⌋ < 10001 :=
      Int.floor_lt.mpr (by push_cast; linarith)
    have hcast : ((⌊min 1 (max 0 value) * 10 ^ 4 + 1 / 2⌋ : ℤ) : ℚ) ≤ 10000 := by
      exact_mod_cast Int.lt_add_one_iff.mp hfloor
    linarith

/-- What a call makes of the loops of the thread it finds. -/
structure LoopsRewritten (threadKey loopId : String) (status : OpenLoopStatus)
    (loops next : List OpenLoopV1) : Prop where
  ids : (next.map OpenLoopV1.loopId).Perm (loops.map OpenLoopV1.loopId) ∨
    loopId ∉ loops.map OpenLoopV1.loopId ∧
      (next.map OpenLoopV1.loopId).Perm (loops.map OpenLoopV1.loopId ++ [loopId])
  each : ∀ loop ∈ next, loop ∈ loops ∨
    loop.loopId = loopId ∧ loop.status = status ∧
      (loop.threadKey = threadKey ∨ ∃ prior ∈ loops, loop.threadKey = prior.threadKey) ∧
      (0 ≤ loop.priority ∧ loop.priority ≤ 1 ∨ ∃ prior ∈ loops, loop.priority = prior.priority)

variable {platform sha}
variable {threadKey loopId : String} {status : OpenLoopStatus} {loops next : List OpenLoopV1}

lemma LoopsRewritten.sorted (h : LoopsRewritten threadKey loopId status loops next) :
    LoopsRewritten threadKey loopId status loops (sortOpenLoops platform next) where
  ids := by
    have hperm := ((openLoopOrder platform).sort_perm next).map OpenLoopV1.loopId
    rcases h.ids with hids | ⟨hnew, hids⟩
    · exact Or.inl (hperm.trans hids)
    · exact Or.inr ⟨hnew, hperm.trans hids⟩
  each loop hloop := h.each loop ((openLoopOrder platform).mem_sort.mp hloop)

lemma LoopsRewritten.nodup (h : LoopsRewritten threadKey loopId status loops next)
    (hloops : (loops.map OpenLoopV1.loopId).Nodup) : (next.map OpenLoopV1.loopId).Nodup := by
  rcases h.ids with hids | ⟨hnew, hids⟩
  · exact hids.nodup_iff.mpr hloops
  · refine hids.nodup_iff.mpr (List.nodup_append.mpr ⟨hloops, List.nodup_singleton _, ?_⟩)
    intro id hid other hother
    rw [List.mem_singleton.mp hother]
    rintro rfl
    exact hnew hid

variable {input : UpsertOpenLoopInputV1} {code : OpenLoopTriggerCodeV1} {thread : ThreadFrameV1}

lemma loopsRewritten_reopened {existing : OpenLoopV1}
    (hfound : loops.find? (fun loop => loop.loopId = loopId) = some existing) :
    LoopsRewritten threadKey loopId .unresolved loops
      (loops.map fun loop => if loop.loopId = loopId then
        openedLoop platform input code loopId thread (some existing) else loop) where
  ids := by
    have hid : existing.loopId = loopId := by simpa using List.find?_some hfound
    refine Or.inl (List.Perm.of_eq ?_)
    rw [List.map_map]
    refine List.map_congr_left fun loop _ => ?_
    by_cases hsame : loop.loopId = loopId
    · simp [hsame, openedLoop, hid]
    · simp [hsame]
  each := by
    have hid : existing.loopId = loopId := by simpa using List.find?_some hfound
    intro loop hloop
    obtain ⟨prior, hprior, hrewritten⟩ := List.mem_map.mp hloop
    by_cases hsame : prior.loopId = loopId
    · rw [if_pos hsame] at hrewritten
      subst hrewritten
      refine Or.inr ⟨hid, rfl, Or.inr ⟨existing, List.mem_of_find?_eq_some hfound, rfl⟩, ?_⟩
      exact Or.inl (clampPriority_bounds _)
    · rw [if_neg hsame] at hrewritten
      exact Or.inl (hrewritten ▸ hprior)

lemma loopsRewritten_opened (hnone : loops.find? (fun loop => loop.loopId = loopId) = none) :
    LoopsRewritten thread.threadKey loopId .unresolved loops
      (loops ++ [openedLoop platform input code loopId thread none]) where
  ids := by
    refine Or.inr ⟨?_, List.Perm.of_eq (by simp [openedLoop])⟩
    intro hmem
    obtain ⟨loop, hloop, hid⟩ := List.mem_map.mp hmem
    have hno := List.find?_eq_none.mp hnone loop hloop
    simp [hid] at hno
  each loop hloop := by
    rcases List.mem_append.mp hloop with hold | hnew
    · exact Or.inl hold
    · rw [List.mem_singleton.mp hnew]
      exact Or.inr ⟨rfl, rfl, Or.inl rfl, Or.inl (clampPriority_bounds _)⟩

lemma loopsRewritten_resolved {existing : OpenLoopV1} (observedAt : String)
    (hget : loops[loops.findIdx fun loop => loop.loopId = loopId]? = some existing) :
    LoopsRewritten threadKey loopId status loops
      (loops.set (loops.findIdx fun loop => loop.loopId = loopId)
        { existing with status := status, lastMentionedAt := observedAt }) := by
  rw [← List.find?_eq_getElem?_findIdx] at hget
  have hmem := List.mem_of_find?_eq_some hget
  have hid : existing.loopId = loopId := by simpa using List.find?_some hget
  rw [List.find?_eq_getElem?_findIdx] at hget
  constructor
  · refine Or.inl (List.Perm.of_eq ?_)
    obtain ⟨hlt, hexisting⟩ := List.getElem?_eq_some_iff.mp hget
    have hbound : (loops.findIdx fun loop => loop.loopId = loopId) <
        (loops.map OpenLoopV1.loopId).length := by simpa using hlt
    have hsame : existing.loopId = (loops.map OpenLoopV1.loopId)[loops.findIdx fun loop =>
        loop.loopId = loopId] := by
      rw [List.getElem_map, hexisting]
    rw [List.map_set, hsame, List.set_getElem_self]
  · intro loop hloop
    rcases List.mem_or_eq_of_mem_set hloop with hold | rfl
    · exact Or.inl hold
    · exact Or.inr ⟨hid, rfl, Or.inr ⟨existing, hmem, rfl⟩, Or.inr ⟨existing, hmem, rfl⟩⟩

variable (platform sha) in
/-- A call leaves the stack alone or rewrites the loops of the first thread of its key. -/
lemma afterCall_cases (stack : ConversationStackV1) (call : OpenLoopCall) :
    afterCall platform sha stack call = stack ∨
      ∃ thread loopId next observedAt, firstOfKey stack call.threadKey = some thread ∧
        call.loopId platform sha = some loopId ∧
        LoopsRewritten thread.threadKey loopId call.status thread.openLoops next ∧
        afterCall platform sha stack call = withLoopsOf platform stack thread next observedAt := by
  cases call with
  | upsert input =>
      unfold afterCall OpenLoopCall.apply upsertOpenLoopOnConversationStackV1
      dsimp only
      split_ifs with hdate
      · exact Or.inl rfl
      cases htrigger : detectOpenLoopTriggerV1 platform input.text with
      | none => exact Or.inl rfl
      | some trigger =>
          obtain ⟨code, descriptor⟩ := trigger
          dsimp only
          split_ifs with hempty
          · exact Or.inl rfl
          cases hthread : stack.threads.find? fun thread => thread.threadKey = input.threadKey with
          | none => exact Or.inl rfl
          | some thread =>
              have hkey : thread.threadKey = input.threadKey := by
                simpa using List.find?_some hthread
              refine Or.inr ⟨thread, buildOpenLoopIdV1 platform sha thread.threadKey descriptor,
                _, input.observedAt, hthread, ?_, ?_, rfl⟩
              · simp [OpenLoopCall.loopId, htrigger, hempty, hkey]
              · cases hfound : thread.openLoops.find? fun loop =>
                    loop.loopId = buildOpenLoopIdV1 platform sha thread.threadKey descriptor with
                | none => exact loopsRewritten_opened hfound
                | some existing => exact loopsRewritten_reopened hfound
  | resolve input =>
      unfold afterCall OpenLoopCall.apply resolveOpenLoopOnConversationStackV1
      dsimp only
      split_ifs with hdate
      · exact Or.inl rfl
      cases hthread : stack.threads.find? fun thread => thread.threadKey = input.threadKey with
      | none => exact Or.inl rfl
      | some thread =>
          dsimp only
          cases hget : thread.openLoops[thread.openLoops.findIdx fun loop =>
              loop.loopId = input.loopId]? with
          | none => exact Or.inl rfl
          | some existing =>
              exact Or.inr ⟨thread, input.loopId, _, input.observedAt, hthread, rfl,
                loopsRewritten_resolved input.observedAt hget, rfl⟩

/-! ## One call -/

variable {stack : ConversationStackV1} {call : OpenLoopCall} {observedAt : String}

lemma mem_threads_withLoopsOf {entry : ThreadFrameV1}
    (h : entry ∈ (withLoopsOf platform stack thread next observedAt).threads) :
    entry ∈ stack.threads ∨ entry = { thread with
      openLoops := sortOpenLoops platform next, lastTouchedAt := observedAt } :=
  List.mem_or_eq_of_mem_set ((threadOrder platform).mem_sort.mp h)

lemma UniqueLoopIds.afterCall (h : UniqueLoopIds stack) :
    UniqueLoopIds (afterCall platform sha stack call) := by
  rcases afterCall_cases platform sha stack call with
    hsame | ⟨thread, _, _, _, hthread, _, hloops, hafter⟩
  · rw [hsame]
    exact h
  · rw [hafter]
    intro entry hentry
    rcases mem_threads_withLoopsOf hentry with hold | rfl
    · exact h entry hold
    · exact hloops.sorted.nodup (h thread (List.mem_of_find?_eq_some hthread))

lemma LoopsOfTheirThread.afterCall (h : LoopsOfTheirThread stack) :
    LoopsOfTheirThread (afterCall platform sha stack call) := by
  rcases afterCall_cases platform sha stack call with
    hsame | ⟨thread, _, _, _, hthread, _, hloops, hafter⟩
  · rw [hsame]
    exact h
  · rw [hafter]
    have hown := h thread (List.mem_of_find?_eq_some hthread)
    intro entry hentry loop hloop
    rcases mem_threads_withLoopsOf hentry with hold | rfl
    · exact h entry hold loop hloop
    · rcases hloops.sorted.each loop hloop with hkept | ⟨_, _, hkey, _⟩
      · exact hown loop hkept
      · rcases hkey with hkey | ⟨prior, hprior, hkey⟩
        · exact hkey
        · exact hkey.trans (hown prior hprior)

lemma PrioritiesBounded.afterCall (h : PrioritiesBounded stack) :
    PrioritiesBounded (afterCall platform sha stack call) := by
  rcases afterCall_cases platform sha stack call with
    hsame | ⟨thread, _, _, _, hthread, _, hloops, hafter⟩
  · rw [hsame]
    exact h
  · rw [hafter]
    have hbounded := h thread (List.mem_of_find?_eq_some hthread)
    intro entry hentry loop hloop
    rcases mem_threads_withLoopsOf hentry with hold | rfl
    · exact h entry hold loop hloop
    · rcases hloops.sorted.each loop hloop with hkept | ⟨_, _, _, hpriority⟩
      · exact hbounded loop hkept
      · rcases hpriority with hpriority | ⟨prior, hprior, hpriority⟩
        · exact hpriority
        · rw [hpriority]
          exact hbounded prior hprior

variable (platform sha) in
/-- The call leaves a loop of the thread's key and the id waiting. -/
def OpenLoopCall.Reopens (threadKey loopId : String) (call : OpenLoopCall) : Prop :=
  call.threadKey = threadKey ∧ call.loopId platform sha = some loopId ∧ call.status = .unresolved

lemma LoopClosed.afterCall (h : LoopClosed threadKey loopId stack)
    (hquiet : ¬ call.Reopens platform sha threadKey loopId) :
    LoopClosed threadKey loopId (afterCall platform sha stack call) := by
  rcases afterCall_cases platform sha stack call with
    hsame | ⟨thread, _, _, _, hthread, hid, hloops, hafter⟩
  · rw [hsame]
    exact h
  · rw [hafter]
    have hkey : thread.threadKey = call.threadKey := by simpa using List.find?_some hthread
    intro entry hentry hentryKey loop hloop hloopId
    rcases mem_threads_withLoopsOf hentry with hold | rfl
    · exact h entry hold hentryKey loop hloop hloopId
    · rcases hloops.sorted.each loop hloop with hkept | ⟨hsameId, hstatus, _⟩
      · exact h thread (List.mem_of_find?_eq_some hthread) hentryKey loop hkept hloopId
      · intro hwaiting
        exact hquiet ⟨hkey.symm.trans hentryKey, by rw [hid, ← hsameId, hloopId],
          hstatus.symm.trans hwaiting⟩

variable (platform sha) in
lemma oneThreadRewritten_afterCall (stack : ConversationStackV1) (call : OpenLoopCall) :
    OneThreadRewritten call.threadKey stack (afterCall platform sha stack call) := by
  rcases afterCall_cases platform sha stack call with
    hsame | ⟨thread, _, next, observedAt, hthread, _, _, hafter⟩
  · rw [hsame]
    exact ⟨rfl, rfl, Or.inl (List.Perm.refl _)⟩
  · have hkey : thread.threadKey = call.threadKey := by simpa using List.find?_some hthread
    rw [hafter]
    refine ⟨rfl, rfl, Or.inr ⟨thread, { thread with
      openLoops := sortOpenLoops platform next, lastTouchedAt := observedAt }, hthread, ?_, rfl⟩⟩
    rw [← hkey]
    exact (threadOrder platform).sort_perm _

lemma afterCall_of_matchesNothing (h : MatchesNothing platform sha stack call) :
    afterCall platform sha stack call = stack := by
  rcases afterCall_cases platform sha stack call with
    hsame | ⟨thread, loopId, next, observedAt, hthread, hid, _, hafter⟩
  · exact hsame
  · cases call with
    | upsert input =>
        rcases h with hnone | hnone
        · rw [hnone] at hid
          cases hid
        · rw [show firstOfKey stack input.threadKey = some thread from hthread] at hnone
          cases hnone
    | resolve input =>
        have hno := h thread hthread
        have hget : thread.openLoops[thread.openLoops.findIdx fun loop =>
            loop.loopId = input.loopId]? = none := by
          rw [← List.find?_eq_getElem?_findIdx]
          refine List.find?_eq_none.mpr fun loop hloop => ?_
          simpa using hno loop hloop
        unfold Core.afterCall OpenLoopCall.apply resolveOpenLoopOnConversationStackV1
        have hfirst : (stack.threads.find? fun thread => thread.threadKey = input.threadKey) =
            some thread := hthread
        dsimp only
        split_ifs
        · rfl
        · rw [hfirst]
          simp only [hget, Option.getD_some]

/-! ## Runs of calls -/

lemma afterCalls_keeps {P : ConversationStackV1 → Prop} {calls : List OpenLoopCall}
    (hstep : ∀ stack, ∀ call ∈ calls, P stack → P (afterCall platform sha stack call))
    (h : P stack) : P (afterCalls platform sha stack calls) := by
  induction calls generalizing stack with
  | nil => exact h
  | cons call calls ih =>
      refine ih (fun stack other hother => hstep stack other (List.mem_cons_of_mem _ hother)) ?_
      exact hstep stack call List.mem_cons_self h

/-- Along every run of calls the loops stay well kept, and each call rewrites one thread at most. -/
theorem open_loops_maintained (platform : Platform) (sha : Sha256) (stack : ConversationStackV1)
    (calls : List OpenLoopCall) :
    let reached := afterCalls platform sha stack calls
    (UniqueLoopIds stack → UniqueLoopIds reached) ∧
    (LoopsOfTheirThread stack → LoopsOfTheirThread reached) ∧
    (PrioritiesBounded stack → PrioritiesBounded reached) ∧
    (∀ call, OneThreadRewritten call.threadKey reached (afterCall platform sha reached call) ∧
      (MatchesNothing platform sha reached call → afterCall platform sha reached call = reached)) ∧
    ∀ threadKey loopId, LoopClosed threadKey loopId stack →
      (∀ call ∈ calls, ¬ call.Reopens platform sha threadKey loopId) →
        LoopClosed threadKey loopId reached := by
  refine ⟨?_, ?_, ?_, ?_, ?_⟩
  · exact afterCalls_keeps fun _ _ _ h => h.afterCall
  · exact afterCalls_keeps fun _ _ _ h => h.afterCall
  · exact afterCalls_keeps fun _ _ _ h => h.afterCall
  · exact fun call =>
      ⟨oneThreadRewritten_afterCall platform sha _ call, afterCall_of_matchesNothing⟩
  · intro threadKey loopId hclosed hquiet
    exact afterCalls_keeps (fun _ call hcall h => h.afterCall (hquiet call hcall)) hclosed

def loopTime : String := "2026-03-01T00:00:00.000Z"

def loopPlatform : Platform := .ofDates [(loopTime, 1772323200000)]

def loopSha : Sha256 :=
  .ofTable [("\x7b\"descriptor\":\"circle back later\",\"threadKey\":\"thread_a\"\x7d",
    "c468f63422d2ed795945645dc3b91f19da06419eea02920cfafdca904aa737e0")] (by decide)

def loopThread (openLoops : List OpenLoopV1) : ThreadFrameV1 where
  threadKey := "thread_a"
  topicKey := "topic_a"
  topicLabel := "Topic"
  state := .active
  resumeHint := "Topic"
  openLoops := openLoops
  lastTouchedAt := loopTime

def loopStack (openLoops : List OpenLoopV1) : ConversationStackV1 where
  updatedAt := loopTime
  activeThreadKey := some "thread_a"
  threads := [loopThread openLoops]
  topics := []

def strayLoop : OpenLoopV1 where
  loopId := "loop_a"
  threadKey := "thread_b"
  entityRefs := []
  actorScope := none
  createdAt := loopTime
  lastMentionedAt := loopTime
  priority := 7
  status := .resolved

def mention (text : String) : OpenLoopCall :=
  .upsert { threadKey := "thread_a", text := text, observedAt := loopTime }

def circledBack : ConversationStackV1 :=
  afterCalls loopPlatform loopSha (loopStack [])
    [mention "Circle back later",
      .resolve ⟨"thread_a", "loop_c468f63422d2ed795945", loopTime, .resolved⟩]

/-- A stack is accepted with any loops, and another spelling of a text opens its loop again. -/
theorem stray_loops_and_reopened_loop :
    (¬ UniqueLoopIds (afterCalls loopPlatform loopSha (loopStack [strayLoop, strayLoop]) []) ∧
      ¬ LoopsOfTheirThread (afterCalls loopPlatform loopSha (loopStack [strayLoop]) []) ∧
      ¬ PrioritiesBounded (afterCalls loopPlatform loopSha (loopStack [strayLoop]) [])) ∧
    circledBack.threads.map (fun thread => thread.openLoops.map OpenLoopV1.status) =
      [[.resolved]] ∧
    (afterCall loopPlatform loopSha circledBack (mention "Circle back, LATER!")).threads.map
      (fun thread => thread.openLoops.map OpenLoopV1.status) = [[.unresolved]] := by
  refine ⟨⟨?_, ?_, ?_⟩, ?_, ?_⟩
  · intro h
    have hnodup := h (loopThread [strayLoop, strayLoop]) List.mem_cons_self
    simp [loopThread] at hnodup
  · intro h
    have hkey := h (loopThread [strayLoop]) List.mem_cons_self strayLoop List.mem_cons_self
    simp [loopThread, strayLoop] at hkey
  · intro h
    have hpriority := h (loopThread [strayLoop]) List.mem_cons_self strayLoop List.mem_cons_self
    norm_num [strayLoop] at hpriority
  · decide +kernel
  · decide +kernel

end AgentBigBrain.Core

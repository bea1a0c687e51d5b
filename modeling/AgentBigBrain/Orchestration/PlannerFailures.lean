import AgentBigBrain.Js.Host
import AgentBigBrain.Lib.Runs

/-!
# The failure memory of the planner

A failed planning call is counted under a fingerprint of its request. After two failures within
two minutes the fingerprint is blocked for a minute, and a new call is refused before it asks the
model. Calls overlap: each operation on the store is a step of its own, and what a failed call has
read may be old when it writes.
-/
namespace AgentBigBrain.Orchestration

open AgentBigBrain.Js AgentBigBrain.Lib

variable (host : Host)

/-! ## Fingerprints and entries -/

def PLANNER_FAILURE_WINDOW_MS : ℕ := 2 * 60 * 1000

def PLANNER_FAILURE_COOLDOWN_MS : ℕ := 60 * 1000

def PLANNER_FAILURE_MAX_STRIKES : ℕ := 2

def MAX_FAILURE_FINGERPRINT_SEGMENT_LENGTH : ℕ := 120

def normalizeFingerprintSegment (value : String) : String :=
  sliceUnits MAX_FAILURE_FINGERPRINT_SEGMENT_LENGTH
    (String.ofList (collapseChars false (host.toLowerCase (trim value)).toList))

/-- What the fingerprint reads of a task. -/
structure PlannerTask where
  goal : String
  userInput : String
deriving DecidableEq, Repr

def buildFailureFingerprint (task : PlannerTask) : String :=
  normalizeFingerprintSegment host task.goal ++ "::" ++
    normalizeFingerprintSegment host task.userInput

structure PlannerFailureFingerprintEntry where
  strikes : ℕ
  lastFailureAtMs : ℕ
  blockedUntilMs : ℕ
deriving DecidableEq, Repr

abbrev FailureEntries := String → Option PlannerFailureFingerprintEntry

/-- The stores differ in what a clean-up removes: the one in SQLite reads the clock again. -/
inductive PlannerFailureStore where
  | inMemory | sqlite
deriving DecidableEq, Repr

def PlannerFailureStore.isStale (store : PlannerFailureStore) (staleBeforeMs : ℤ) (dbNowMs : ℕ)
    (entry : PlannerFailureFingerprintEntry) : Bool :=
  match store with
  | .inMemory => (entry.lastFailureAtMs : ℤ) < staleBeforeMs
  | .sqlite => (entry.lastFailureAtMs : ℤ) < staleBeforeMs && entry.blockedUntilMs ≤ dbNowMs

def cleanupOlderThan (store : PlannerFailureStore) (entries : FailureEntries)
    (staleBeforeMs : ℤ) (dbNowMs : ℕ) : FailureEntries :=
  fun fingerprint => (entries fingerprint).filter fun entry =>
    !store.isStale staleBeforeMs dbNowMs entry

def cooldownMessage (cooldownRemainingMs : ℕ) : String :=
  "Planner failure cooldown active (" ++ toString cooldownRemainingMs ++
    "ms remaining) for repeated failing request fingerprint."

/-- The message that a blocked request is refused with. -/
def assertFailureCooldownOpen (entry : Option PlannerFailureFingerprintEntry) (nowMs : ℕ) :
    Option String :=
  match entry with
  | none => none
  | some entry =>
      if entry.blockedUntilMs ≤ nowMs then none
      else some (cooldownMessage (entry.blockedUntilMs - nowMs))

/-- What a failed call writes over the entry it has read. -/
def recordFailureFingerprint (previous : Option PlannerFailureFingerprintEntry) (nowMs : ℕ) :
    PlannerFailureFingerprintEntry :=
  let strikes :=
    match previous with
    | none => 1
    | some previous =>
        if (nowMs : ℤ) - previous.lastFailureAtMs ≤ PLANNER_FAILURE_WINDOW_MS then
          previous.strikes + 1
        else 1
  { strikes := strikes
    lastFailureAtMs := nowMs
    blockedUntilMs :=
      if PLANNER_FAILURE_MAX_STRIKES ≤ strikes then nowMs + PLANNER_FAILURE_COOLDOWN_MS else 0 }

/-! ## Planning calls -/

/-- Where a call stands: the store is cleaned and the entry not read yet; the model is asked; the
call has failed and its entry is read back; the entry is read and not yet written. -/
inductive PlanPhase where
  | cleaned
  | planning
  | failed (atMs : ℕ)
  | recording (previous : Option PlannerFailureFingerprintEntry) (atMs : ℕ)
  | refused (message : String)
  | finished
deriving DecidableEq, Repr

structure PlanCall where
  fingerprint : String
  nowMs : ℕ
  phase : PlanPhase
deriving DecidableEq, Repr

/-- What was written for a fingerprint, for the log. -/
inductive PlanOutcome where
  | failed (fingerprint : String) (atMs : ℕ)
  | cleared (fingerprint : String)
deriving DecidableEq, Repr

/-- The log, oldest outcome first, is not kept by the source; it says what has happened. -/
structure PlannerState where
  entries : FailureEntries
  calls : List PlanCall
  log : List PlanOutcome

def PlannerState.empty : PlannerState := ⟨fun _ => none, [], []⟩

/-- A call that throws before or while it falls back on a deterministic plan is abandoned: nothing
is recorded for it. -/
inductive PlannerMove where
  | check
  | clear
  | abandon
  | fail (nowMs : ℕ)
  | read
  | record
deriving DecidableEq, Repr

inductive PlannerEvent where
  | start (task : PlannerTask) (nowMs dbNowMs : ℕ)
  | move (call : ℕ) (move : PlannerMove)
deriving DecidableEq, Repr

def checkedPhase (state : PlannerState) (call : PlanCall) : PlanPhase :=
  match assertFailureCooldownOpen (state.entries call.fingerprint) call.nowMs with
  | none => .planning
  | some message => .refused message

def PlannerState.clearFailureFingerprint (state : PlannerState) (fingerprint : String) :
    PlannerState :=
  { state with
    entries := Function.update state.entries fingerprint none
    log := state.log ++ [.cleared fingerprint] }

def PlannerState.upsertFailure (state : PlannerState) (fingerprint : String)
    (previous : Option PlannerFailureFingerprintEntry) (atMs : ℕ) : PlannerState :=
  { state with
    entries := Function.update state.entries fingerprint
      (some (recordFailureFingerprint previous atMs))
    log := state.log ++ [.failed fingerprint atMs] }

/-- One operation of a call in its phase: the phase it goes on to, and the state beside it. -/
def planMove (state : PlannerState) (call : PlanCall) (move : PlannerMove) :
    Option (PlanPhase × PlannerState) :=
  match move, call.phase with
  | .check, .cleaned => some (checkedPhase state call, state)
  | .clear, .planning => some (.finished, state.clearFailureFingerprint call.fingerprint)
  | .abandon, .planning => some (.finished, state)
  | .fail nowMs, .planning => some (.failed nowMs, state)
  | .read, .failed atMs => some (.recording (state.entries call.fingerprint) atMs, state)
  | .record, .recording previous atMs =>
      some (.finished, state.upsertFailure call.fingerprint previous atMs)
  | _, _ => none

def plannerStep (store : PlannerFailureStore) (state : PlannerState) :
    PlannerEvent → Option PlannerState
  | .start task nowMs dbNowMs =>
      some
        { state with
          entries := cleanupOlderThan store state.entries
            ((nowMs : ℤ) - PLANNER_FAILURE_WINDOW_MS) dbNowMs
          calls := state.calls ++ [⟨buildFailureFingerprint host task, nowMs, .cleaned⟩] }
  | .move index move => do
      let call ← state.calls[index]?
      let (phase, moved) ← planMove state call move
      some { moved with calls := state.calls.set index { call with phase := phase } }

/-! ### A request that fails twice -/

def plainText : Host := Host.ofTables [] []

def shortTask : PlannerTask := ⟨"a", "b"⟩

def failingCall (index nowMs : ℕ) : List PlannerEvent :=
  .start shortTask nowMs nowMs :: [.check, .fail (nowMs + 10), .read, .record].map (.move index)

/-- Two failures, a refusal, and a third failure when the minute is over. -/
def failingCalls : List PlannerEvent :=
  failingCall 0 0 ++ failingCall 1 1000 ++ [.start shortTask 2000 2000, .move 2 .check] ++
    failingCall 3 61010

lemma run_failingCalls : (run (plannerStep plainText .sqlite) .empty failingCalls).isSome := by
  decide +kernel

def afterFailing : PlannerState :=
  (run (plannerStep plainText .sqlite) .empty failingCalls).get run_failingCalls

lemma afterFailing_eq :
    run (plannerStep plainText .sqlite) .empty failingCalls = some afterFailing :=
  (Option.some_get run_failingCalls).symm

/-! ### What a step can do -/

section Cleanup

variable {store : PlannerFailureStore} {entries : FailureEntries} {staleBeforeMs : ℤ}
  {dbNowMs : ℕ} {fingerprint : String} {entry : PlannerFailureFingerprintEntry}

lemma cleanupOlderThan_of_none (h : entries fingerprint = none) :
    cleanupOlderThan store entries staleBeforeMs dbNowMs fingerprint = none := by
  rw [cleanupOlderThan, h, Option.filter_none]

lemma cleanupOlderThan_of_some (h : entries fingerprint = some entry) :
    cleanupOlderThan store entries staleBeforeMs dbNowMs fingerprint =
      if store.isStale staleBeforeMs dbNowMs entry then none else some entry := by
  rw [cleanupOlderThan, h, Option.filter_some]
  cases store.isStale staleBeforeMs dbNowMs entry <;> rfl

lemma cleanupOlderThan_some
    (h : cleanupOlderThan store entries staleBeforeMs dbNowMs fingerprint = some entry) :
    entries fingerprint = some entry :=
  (Option.filter_eq_some_iff.mp h).1

end Cleanup

variable {host} {store : PlannerFailureStore} {state next start finish : PlannerState}
  {event : PlannerEvent} {events : List PlannerEvent} {call : PlanCall} {index : ℕ}

/-- A call goes on to a phase, and the rest of the state goes with it. -/
inductive PlanMove (state : PlannerState) (call : PlanCall) : PlanPhase → PlannerState → Prop
  | check : PlanMove state call (checkedPhase state call) state
  | clear : PlanMove state call .finished (state.clearFailureFingerprint call.fingerprint)
  | abandon : PlanMove state call .finished state
  | fail (nowMs : ℕ) : PlanMove state call (.failed nowMs) state
  | read (atMs : ℕ) : PlanMove state call (.recording (state.entries call.fingerprint) atMs) state
  | record {previous : Option PlannerFailureFingerprintEntry} {atMs : ℕ} :
      call.phase = .recording previous atMs →
      PlanMove state call .finished (state.upsertFailure call.fingerprint previous atMs)

lemma planMove_cases {move : PlannerMove} {phase : PlanPhase} {moved : PlannerState}
    (h : planMove state call move = some (phase, moved)) : PlanMove state call phase moved := by
  unfold planMove at h
  split at h <;> cases h
  · exact .check
  · exact .clear
  · exact .abandon
  · exact .fail _
  · exact .read _
  · next hphase => exact .record hphase

/-- A call starts, or one call moves. -/
lemma plannerStep_cases (h : plannerStep host store state event = some next) :
    (∃ task nowMs dbNowMs, event = .start task nowMs dbNowMs ∧
      next = ⟨cleanupOlderThan store state.entries ((nowMs : ℤ) - PLANNER_FAILURE_WINDOW_MS)
          dbNowMs,
        state.calls ++ [⟨buildFailureFingerprint host task, nowMs, .cleaned⟩], state.log⟩) ∨
    ∃ index call phase moved, state.calls[index]? = some call ∧ PlanMove state call phase moved ∧
      next = { moved with calls := state.calls.set index { call with phase := phase } } := by
  cases event with
  | start task nowMs dbNowMs =>
      exact .inl ⟨task, nowMs, dbNowMs, rfl, by simpa [plannerStep] using h.symm⟩
  | move index move =>
      obtain ⟨call, hcall, h⟩ := Option.bind_eq_some_iff.mp h
      obtain ⟨⟨phase, moved⟩, hmove, h⟩ := Option.bind_eq_some_iff.mp h
      exact .inr ⟨index, call, phase, moved, hcall, planMove_cases hmove, (Option.some.inj h).symm⟩

section Moves

variable {phase : PlanPhase} {moved : PlannerState}

lemma PlanMove.log_sublist (h : PlanMove state call phase moved) :
    state.log.Sublist moved.log := by
  cases h with
  | check | abandon | fail | read => exact List.Sublist.refl _
  | clear | record => exact List.sublist_append_left _ _

/-- An entry was there before the move, or the move has recorded it. -/
lemma PlanMove.entry_cases (h : PlanMove state call phase moved) {fingerprint : String}
    {entry : PlannerFailureFingerprintEntry} (hentry : moved.entries fingerprint = some entry) :
    state.entries fingerprint = some entry ∨ ∃ previous atMs,
      call.phase = .recording previous atMs ∧ fingerprint = call.fingerprint ∧
      entry = recordFailureFingerprint previous atMs ∧
      moved.log = state.log ++ [.failed fingerprint atMs] := by
  cases h with
  | check | abandon | fail | read => exact .inl hentry
  | clear =>
      by_cases hsame : fingerprint = call.fingerprint
      · simp [PlannerState.clearFailureFingerprint, hsame] at hentry
      · simp only [PlannerState.clearFailureFingerprint, Function.update_of_ne hsame] at hentry
        exact .inl hentry
  | @record previous atMs hphase =>
      by_cases hsame : fingerprint = call.fingerprint
      · subst hsame
        simp only [PlannerState.upsertFailure, Function.update_self, Option.some.injEq] at hentry
        exact .inr ⟨previous, atMs, hphase, rfl, hentry.symm, rfl⟩
      · simp only [PlannerState.upsertFailure, Function.update_of_ne hsame] at hentry
        exact .inl hentry

end Moves

/-! ## Why a call is refused -/

/-- An entry says what the log has: its last failure, and for a second strike one before it. -/
structure Backed (log : List PlanOutcome) (fingerprint : String)
    (entry : PlannerFailureFingerprintEntry) : Prop where
  last : .failed fingerprint entry.lastFailureAtMs ∈ log
  pair : 2 ≤ entry.strikes → ∃ earlier,
    [.failed fingerprint earlier, .failed fingerprint entry.lastFailureAtMs].Sublist log ∧
      entry.lastFailureAtMs ≤ earlier + PLANNER_FAILURE_WINDOW_MS
  blocked : entry.blockedUntilMs =
    if 2 ≤ entry.strikes then entry.lastFailureAtMs + PLANNER_FAILURE_COOLDOWN_MS else 0

lemma Backed.mono {log longer : List PlanOutcome} {fingerprint : String}
    {entry : PlannerFailureFingerprintEntry} (h : Backed log fingerprint entry)
    (hlog : log.Sublist longer) : Backed longer fingerprint entry := by
  refine ⟨hlog.mem h.last, fun hstrikes => ?_, h.blocked⟩
  obtain ⟨earlier, hpair, hwindow⟩ := h.pair hstrikes
  exact ⟨earlier, hpair.trans hlog, hwindow⟩

lemma Backed.record {log : List PlanOutcome} {fingerprint : String}
    {previous : Option PlannerFailureFingerprintEntry}
    (h : ∀ entry ∈ previous, Backed log fingerprint entry) (atMs : ℕ) :
    Backed (log ++ [.failed fingerprint atMs]) fingerprint
      (recordFailureFingerprint previous atMs) := by
  refine ⟨by simp [recordFailureFingerprint], fun hstrikes => ?_, rfl⟩
  cases previous with
  | none => simp [recordFailureFingerprint] at hstrikes
  | some entry =>
      have hwindow : (atMs : ℤ) - entry.lastFailureAtMs ≤ PLANNER_FAILURE_WINDOW_MS := by
        by_contra hlate
        simp [recordFailureFingerprint, hlate] at hstrikes
      have hlast : [PlanOutcome.failed fingerprint entry.lastFailureAtMs].Sublist log :=
        List.singleton_sublist.mpr (h entry rfl).last
      exact ⟨entry.lastFailureAtMs, hlast.append (List.Sublist.refl [_]), by
        simp only [recordFailureFingerprint]
        omega⟩

/-- What a refused call was told: the last failure is less than a minute old, and two minutes
before it, or later, there was another one. -/
def RefusedFor (log : List PlanOutcome) (fingerprint : String) (nowMs : ℕ) (message : String) :
    Prop :=
  ∃ earlier last, [.failed fingerprint earlier, .failed fingerprint last].Sublist log ∧
    last ≤ earlier + PLANNER_FAILURE_WINDOW_MS ∧ nowMs < last + PLANNER_FAILURE_COOLDOWN_MS ∧
    message = cooldownMessage (last + PLANNER_FAILURE_COOLDOWN_MS - nowMs)

lemma RefusedFor.mono {log longer : List PlanOutcome} {fingerprint message : String} {nowMs : ℕ}
    (h : RefusedFor log fingerprint nowMs message) (hlog : log.Sublist longer) :
    RefusedFor longer fingerprint nowMs message := by
  obtain ⟨earlier, last, hpair, hrest⟩ := h
  exact ⟨earlier, last, hpair.trans hlog, hrest⟩

/-- What a phase knows of the log. -/
def PhaseBacked (log : List PlanOutcome) (call : PlanCall) : Prop :=
  match call.phase with
  | .recording previous _ => ∀ entry ∈ previous, Backed log call.fingerprint entry
  | .refused message => RefusedFor log call.fingerprint call.nowMs message
  | _ => True

lemma PhaseBacked.mono {log longer : List PlanOutcome} (h : PhaseBacked log call)
    (hlog : log.Sublist longer) : PhaseBacked longer call := by
  unfold PhaseBacked at h ⊢
  split at h <;> try trivial
  · exact fun entry hentry => (h entry hentry).mono hlog
  · exact RefusedFor.mono h hlog

structure PlannerState.Backed (state : PlannerState) : Prop where
  entries : ∀ fingerprint, ∀ entry ∈ state.entries fingerprint,
    Orchestration.Backed state.log fingerprint entry
  calls : ∀ call ∈ state.calls, PhaseBacked state.log call

lemma assertFailureCooldownOpen_eq_some {entry : Option PlannerFailureFingerprintEntry}
    {nowMs : ℕ} {message : String} (h : assertFailureCooldownOpen entry nowMs = some message) :
    ∃ blocking, entry = some blocking ∧ nowMs < blocking.blockedUntilMs ∧
      message = cooldownMessage (blocking.blockedUntilMs - nowMs) := by
  cases entry with
  | none => simp [assertFailureCooldownOpen] at h
  | some entry =>
      simp only [assertFailureCooldownOpen] at h
      split at h
      · contradiction
      · exact ⟨entry, rfl, by omega, (Option.some.inj h).symm⟩

lemma PlannerState.Backed.refusedFor (h : state.Backed) {message : String}
    (hmessage : assertFailureCooldownOpen (state.entries call.fingerprint) call.nowMs =
      some message) : RefusedFor state.log call.fingerprint call.nowMs message := by
  obtain ⟨entry, hentry, hbefore, rfl⟩ := assertFailureCooldownOpen_eq_some hmessage
  obtain ⟨-, hpair, hblocked⟩ := h.entries call.fingerprint entry hentry
  by_cases hstrikes : 2 ≤ entry.strikes
  · obtain ⟨earlier, hsublist, hwindow⟩ := hpair hstrikes
    rw [if_pos hstrikes] at hblocked
    rw [hblocked] at hbefore ⊢
    exact ⟨earlier, entry.lastFailureAtMs, hsublist, hwindow, hbefore, rfl⟩
  · rw [if_neg hstrikes] at hblocked
    omega

lemma PlannerState.Backed.checked (h : state.Backed) (call : PlanCall) :
    PhaseBacked state.log { call with phase := checkedPhase state call } := by
  cases hresult : assertFailureCooldownOpen (state.entries call.fingerprint) call.nowMs with
  | none => simp [PhaseBacked, checkedPhase, hresult]
  | some message => simpa [PhaseBacked, checkedPhase, hresult] using h.refusedFor hresult

lemma PlanMove.backed {phase : PlanPhase} {moved : PlannerState}
    (h : PlanMove state call phase moved) (hcall : call ∈ state.calls) (hstate : state.Backed) :
    (∀ fingerprint, ∀ entry ∈ moved.entries fingerprint,
      Orchestration.Backed moved.log fingerprint entry) ∧
      PhaseBacked moved.log { call with phase := phase } := by
  refine ⟨fun fingerprint entry hentry => ?_, ?_⟩
  · rcases h.entry_cases hentry with hold | ⟨previous, atMs, hrecording, rfl, rfl, hlog⟩
    · exact (hstate.entries fingerprint entry hold).mono h.log_sublist
    · have hphase := hstate.calls call hcall
      rw [PhaseBacked, hrecording] at hphase
      rw [hlog]
      exact Backed.record hphase atMs
  · cases h with
    | check => exact hstate.checked call
    | read => exact hstate.entries call.fingerprint
    | clear | abandon | fail | record => trivial

lemma PlannerState.Backed.step (hstate : state.Backed)
    (h : plannerStep host store state event = some next) : next.Backed := by
  rcases plannerStep_cases h with
    ⟨task, nowMs, dbNowMs, -, rfl⟩ | ⟨index, call, phase, moved, hcall, hmove, rfl⟩
  · refine ⟨fun fingerprint entry hentry => ?_, fun call hcall => ?_⟩
    · exact hstate.entries fingerprint entry (cleanupOlderThan_some hentry)
    rcases List.mem_append.mp hcall with hold | hnew
    · exact hstate.calls call hold
    · rw [List.mem_singleton.mp hnew]
      trivial
  · obtain ⟨hentries, hphase⟩ := hmove.backed (List.mem_of_getElem? hcall) hstate
    refine ⟨hentries, fun other hother => ?_⟩
    rcases List.mem_or_eq_of_mem_set hother with hold | rfl
    · exact (hstate.calls other hold).mono hmove.log_sublist
    · exact hphase

/-- In every interleaving a call is refused only for two failures of its own request: the last of
them less than a minute old, the other at most two minutes older. -/
theorem refused_after_two_failures (hrun : run (plannerStep host store) .empty events = some state)
    (hcall : call ∈ state.calls) {message : String} (hrefused : call.phase = .refused message) :
    ∃ earlier last,
      [.failed call.fingerprint earlier, .failed call.fingerprint last].Sublist state.log ∧
        last ≤ earlier + 120000 ∧ call.nowMs < last + 60000 ∧
        message = cooldownMessage (last + 60000 - call.nowMs) := by
  have hempty : PlannerState.Backed .empty :=
    ⟨fun _ _ hentry => by simp [PlannerState.empty] at hentry,
      fun _ hcall => by simp [PlannerState.empty] at hcall⟩
  have hbacked : state.Backed :=
    invariant_of_run (fun _ _ _ hstate hstep => hstate.step hstep) hempty hrun
  have hphase := hbacked.calls call hcall
  rw [PhaseBacked, hrefused] at hphase
  exact hphase

def refusedCall : PlanCall := ⟨"a::b", 2000, .refused (cooldownMessage 59010)⟩

theorem refusedCall_failures : ∃ earlier last,
    [.failed "a::b" earlier, .failed "a::b" last].Sublist afterFailing.log ∧
      last ≤ earlier + 120000 ∧ 2000 < last + 60000 ∧
      cooldownMessage 59010 = cooldownMessage (last + 60000 - 2000) :=
  refused_after_two_failures afterFailing_eq
    (show refusedCall ∈ afterFailing.calls by decide +kernel) rfl

/-! ## The two stores -/

/-- No entry blocks for more than a minute after its failure. -/
def PlannerState.Brief (state : PlannerState) : Prop :=
  ∀ fingerprint, ∀ entry ∈ state.entries fingerprint,
    entry.blockedUntilMs ≤ entry.lastFailureAtMs + PLANNER_FAILURE_COOLDOWN_MS

lemma brief_recordFailureFingerprint (previous : Option PlannerFailureFingerprintEntry)
    (nowMs : ℕ) :
    (recordFailureFingerprint previous nowMs).blockedUntilMs ≤
      (recordFailureFingerprint previous nowMs).lastFailureAtMs + PLANNER_FAILURE_COOLDOWN_MS := by
  simp only [recordFailureFingerprint]
  split_ifs <;> omega

lemma PlannerState.Brief.step (hstate : state.Brief)
    (h : plannerStep host store state event = some next) : next.Brief := by
  intro fingerprint entry hentry
  rcases plannerStep_cases h with
    ⟨task, nowMs, dbNowMs, -, rfl⟩ | ⟨index, call, phase, moved, -, hmove, rfl⟩
  · exact hstate fingerprint entry (cleanupOlderThan_some hentry)
  · rcases hmove.entry_cases hentry with hold | ⟨previous, atMs, -, -, rfl, -⟩
    · exact hstate fingerprint entry hold
    · exact brief_recordFailureFingerprint previous atMs

/-- A clean-up is not dated later than the clock that the database reads. -/
def DatedBefore (_ : PlannerState) : PlannerEvent → Prop
  | .start _ nowMs dbNowMs => nowMs ≤ dbNowMs
  | _ => True

instance (state : PlannerState) (event : PlannerEvent) : Decidable (DatedBefore state event) := by
  cases event <;> simp only [DatedBefore] <;> infer_instance

lemma cleanupOlderThan_stores (hbrief : state.Brief) {nowMs dbNowMs : ℕ} (h : nowMs ≤ dbNowMs) :
    cleanupOlderThan .inMemory state.entries ((nowMs : ℤ) - PLANNER_FAILURE_WINDOW_MS) dbNowMs =
      cleanupOlderThan .sqlite state.entries ((nowMs : ℤ) - PLANNER_FAILURE_WINDOW_MS)
        dbNowMs := by
  funext fingerprint
  cases hentry : state.entries fingerprint with
  | none => rw [cleanupOlderThan_of_none hentry, cleanupOlderThan_of_none hentry]
  | some entry =>
      have hblocked := hbrief fingerprint entry hentry
      rw [cleanupOlderThan_of_some hentry, cleanupOlderThan_of_some hentry]
      by_cases hstale : (entry.lastFailureAtMs : ℤ) < (nowMs : ℤ) - PLANNER_FAILURE_WINDOW_MS
      · -- what failed more than two minutes ago has not blocked for a minute
        have hfree : entry.blockedUntilMs ≤ dbNowMs := by
          simp only [PLANNER_FAILURE_WINDOW_MS, PLANNER_FAILURE_COOLDOWN_MS] at hstale hblocked
          omega
        simp [PlannerFailureStore.isStale, hstale, hfree]
      · simp [PlannerFailureStore.isStale, hstale]

lemma plannerStep_stores (hbrief : state.Brief) (hdated : DatedBefore state event) :
    plannerStep host .inMemory state event = plannerStep host .sqlite state event := by
  cases event with
  | start task nowMs dbNowMs =>
      simp only [plannerStep]
      rw [cleanupOlderThan_stores hbrief hdated]
  | move => rfl

/-- The store in memory and the one in SQLite keep the same entries over every run of planning
calls, and let the same calls pass. -/
theorem run_inMemory_eq_sqlite
    (hdated : Along (plannerStep host .inMemory) DatedBefore .empty events) :
    run (plannerStep host .inMemory) .empty events =
      run (plannerStep host .sqlite) .empty events := by
  have hempty : PlannerState.Brief .empty :=
    fun _ _ hentry => by simp [PlannerState.empty] at hentry
  have hsame : ∀ state event, PlannerState.Brief state → DatedBefore state event →
      plannerStep host .inMemory state event = plannerStep host .sqlite state event :=
    fun _ _ hbrief => plannerStep_stores hbrief
  exact run_eq_of_along hsame (fun _ _ _ hbrief _ hstep => hbrief.step hstep) hempty hdated

theorem failingCalls_stores : run (plannerStep plainText .inMemory) .empty failingCalls =
    run (plannerStep plainText .sqlite) .empty failingCalls :=
  run_inMemory_eq_sqlite (by decide +kernel)

end AgentBigBrain.Orchestration

import AgentBigBrain.Core.WorkflowPatterns
import AgentBigBrain.Lib.ReadModifyWrite

/-!
# Recording workflow observations

With the JSON backend a call reads, adapts and writes the patterns under the file's lock. With
the SQLite backend it reads the table first and begins its write transaction after that, so that
the calls of two processes may both compute from one state of the table.
-/
namespace AgentBigBrain.Core

open AgentBigBrain.Js AgentBigBrain.Lib
open Function (update)

/-- A call of `recordObservation`. -/
structure RecordedObservation where
  observation : WorkflowObservation
  readings : ObservationReadings

/-- Where a process stands in `recordObservationSqlite`; `readAt` counts the transactions that were
committed when it read. -/
inductive RecordingPhase where
  | idle
  /-- The patterns are read; no transaction is open. -/
  | computed (call : RecordedObservation) (current : List WorkflowPattern) (readAt : ℕ)
  /-- Between `BEGIN IMMEDIATE` and the first row. -/
  | begun (call : RecordedObservation) (current : List WorkflowPattern) (readAt : ℕ)
  /-- The rows are replaced; the transaction is not committed. -/
  | rewritten (call : RecordedObservation) (current : List WorkflowPattern) (readAt : ℕ)

/-- What the process has read, while it works on it. -/
def RecordingPhase.loaded :
    RecordingPhase → Option (ReadModifyWrite.Loaded (List WorkflowPattern))
  | .idle => none
  | .computed _ current readAt | .begun _ current readAt | .rewritten _ current readAt =>
      some { content := current, version := readAt }

@[simp] lemma loaded_idle : RecordingPhase.loaded .idle = none := rfl

@[simp] lemma loaded_computed (call : RecordedObservation) (current : List WorkflowPattern)
    (readAt : ℕ) : RecordingPhase.loaded (.computed call current readAt) =
      some { content := current, version := readAt } := rfl

@[simp] lemma loaded_begun (call : RecordedObservation) (current : List WorkflowPattern)
    (readAt : ℕ) : RecordingPhase.loaded (.begun call current readAt) =
      some { content := current, version := readAt } := rfl

@[simp] lemma loaded_rewritten (call : RecordedObservation) (current : List WorkflowPattern)
    (readAt : ℕ) : RecordingPhase.loaded (.rewritten call current readAt) =
      some { content := current, version := readAt } := rfl

structure PatternTable (ι : Type*) where
  rows : List WorkflowPattern
  /-- The calls whose transactions were committed, the earliest first. -/
  committed : List RecordedObservation
  /-- The process whose write transaction is open. -/
  writer : Option ι
  phase : ι → RecordingPhase

inductive RecordingEvent (ι : Type*) where
  | read (process : ι) (call : RecordedObservation)
  | beginImmediate (process : ι)
  | rewrite (process : ι)
  | commit (process : ι)
  /-- The call throws, for instance as the table is busy, or the process ends. -/
  | stop (process : ι)

def PatternTable.opened {ι : Type*} (rows : List WorkflowPattern) : PatternTable ι where
  rows := rows
  committed := []
  writer := none
  phase _ := .idle

variable (platform : BridgePlatform) (hostSort : HostSort)

/-- `recordObservation` of the JSON backend, which no other call interrupts. -/
def recordObservation (patterns : List WorkflowPattern) (call : RecordedObservation) :
    List WorkflowPattern :=
  (recordedAdaptation platform hostSort patterns call.observation call.readings).patterns

variable {ι : Type*} [DecidableEq ι]

/-- One step of one process. What a transaction writes is seen by others once it is committed. -/
def recordingStep (table : PatternTable ι) : RecordingEvent ι → Option (PatternTable ι)
  | .read process call =>
      match table.phase process with
      | .idle =>
          some { table with
            phase := update table.phase process
              (.computed call table.rows table.committed.length) }
      | _ => none
  | .beginImmediate process =>
      match table.phase process, table.writer with
      | .computed call current readAt, none =>
          some { table with
            writer := some process
            phase := update table.phase process (.begun call current readAt) }
      | _, _ => none
  | .rewrite process =>
      match table.phase process with
      | .begun call current readAt =>
          -- The column `id` is unique, and an insertion that fails rolls the transaction back.
          if ((recordObservation platform hostSort current call).map (·.id)).Nodup then
            some { table with
              phase := update table.phase process (.rewritten call current readAt) }
          else some { table with writer := none, phase := update table.phase process .idle }
      | _ => none
  | .commit process =>
      match table.phase process with
      | .rewritten call current _ =>
          some
            { rows := recordObservation platform hostSort current call
              committed := table.committed ++ [call]
              writer := none
              phase := update table.phase process .idle }
      | _ => none
  | .stop process =>
      some { table with
        writer := if table.writer = some process then none else table.writer
        phase := update table.phase process .idle }

/-- The table holds what the JSON backend holds after the committed calls, one after another in
some order. -/
def PatternTable.Reflects (start : List WorkflowPattern) (table : PatternTable ι) : Prop :=
  ∃ order : List RecordedObservation, order.Perm table.committed ∧
    table.rows = order.foldl (recordObservation platform hostSort) start

/-- A transaction that is committed now follows its own reading with no other committed between. -/
def ReadsLatest (table : PatternTable ι) : RecordingEvent ι → Prop
  | .commit process =>
      match table.phase process with
      | .rewritten _ _ readAt => readAt = table.committed.length
      | _ => True
  | _ => True

instance decidableReadsLatest :
    ∀ (table : PatternTable ι) (event : RecordingEvent ι), Decidable (ReadsLatest table event)
  | table, .commit process =>
      match h : table.phase process with
      | .rewritten _ _ readAt =>
          decidable_of_iff (readAt = table.committed.length) (by simp [ReadsLatest, h])
      | .idle | .computed _ _ _ | .begun _ _ _ => .isTrue (by simp [ReadsLatest, h])
  | _, .read _ _ | _, .beginImmediate _ | _, .rewrite _ | _, .stop _ => .isTrue trivial

/-! ## The table as a shared content -/

def PatternTable.shared (table : PatternTable ι) :
    ReadModifyWrite.Shared (List WorkflowPattern) RecordedObservation ι where
  content := table.rows
  performed := table.committed
  loaded process := (table.phase process).loaded

/-- What a step does to the shared content: reading loads it, committing saves it, and a
transaction that is rolled back drops what was loaded. -/
def shadow (table : PatternTable ι) :
    RecordingEvent ι → List (ReadModifyWrite.Event RecordedObservation ι)
  | .read process _ => [.load process]
  | .beginImmediate _ => []
  | .rewrite process =>
      match table.phase process with
      | .begun call current _ =>
          if ((recordObservation platform hostSort current call).map (·.id)).Nodup then []
          else [.drop process]
      | _ => []
  | .commit process =>
      match table.phase process with
      | .rewritten call _ _ => [.save process call]
      | _ => []
  | .stop process => [.drop process]

lemma loaded_update (phase : ι → RecordingPhase) (process : ι) (entry : RecordingPhase) :
    (fun other => (update phase process entry other).loaded) =
      update (fun other => (phase other).loaded) process entry.loaded := by
  funext other
  by_cases hother : other = process
  · subst hother
    simp
  · simp [hother]

/-- A process that goes on working on what it read. -/
lemma loaded_update_of_eq {phase : ι → RecordingPhase} {process : ι} {entry : RecordingPhase}
    (h : entry.loaded = (phase process).loaded) :
    (fun other => (update phase process entry other).loaded) =
      fun other => (phase other).loaded := by
  rw [loaded_update, h]
  exact Function.update_eq_self process _

variable {platform hostSort}

theorem shared_step (table : PatternTable ι) (event : RecordingEvent ι) (next : PatternTable ι)
    (hstep : recordingStep platform hostSort table event = some next) :
    run (ReadModifyWrite.step (recordObservation platform hostSort)) table.shared
      (shadow platform hostSort table event) = some next.shared := by
  cases event with
  | read process call =>
      simp only [recordingStep] at hstep
      split at hstep
      · cases hstep
        simp [shadow, ReadModifyWrite.step, PatternTable.shared, loaded_update]
      · cases hstep
  | beginImmediate process =>
      simp only [recordingStep] at hstep
      split at hstep
      · rename_i call current readAt hphase hwriter
        cases hstep
        have hsame : (fun other => (update table.phase process
            (.begun call current readAt) other).loaded) = _ :=
          loaded_update_of_eq (by rw [hphase]; rfl)
        simp [shadow, PatternTable.shared, hsame]
      · cases hstep
  | rewrite process =>
      simp only [recordingStep] at hstep
      split at hstep
      · rename_i call current readAt hphase
        simp only [shadow, hphase]
        split_ifs at hstep ⊢ with hids
        · cases hstep
          have hsame : (fun other => (update table.phase process
              (.rewritten call current readAt) other).loaded) = _ :=
            loaded_update_of_eq (by rw [hphase]; rfl)
          simp [PatternTable.shared, hsame]
        · cases hstep
          simp [ReadModifyWrite.step, PatternTable.shared, loaded_update]
      · cases hstep
  | commit process =>
      simp only [recordingStep] at hstep
      split at hstep
      · rename_i call current readAt hphase
        cases hstep
        simp [shadow, hphase, ReadModifyWrite.step, PatternTable.shared, loaded_update]
      · cases hstep
  | stop process =>
      cases hstep
      simp [shadow, ReadModifyWrite.step, PatternTable.shared, loaded_update]

theorem readsLatest_iff (table : PatternTable ι) (event : RecordingEvent ι) :
    ReadsLatest table event ↔
      Along (ReadModifyWrite.step (recordObservation platform hostSort)) ReadModifyWrite.Isolated
        table.shared (shadow platform hostSort table event) := by
  cases event with
  | commit process =>
      cases hphase : table.phase process <;>
        simp [ReadsLatest, shadow, hphase, Along, ReadModifyWrite.Isolated, PatternTable.shared]
  | rewrite process =>
      cases hphase : table.phase process <;> simp only [ReadsLatest, shadow, hphase, true_iff]
      case begun call current readAt =>
        split_ifs
        · trivial
        · simp [Along, ReadModifyWrite.Isolated]
      all_goals trivial
  | read process call => simp [ReadsLatest, shadow, Along, ReadModifyWrite.Isolated]
  | beginImmediate process => simp [ReadsLatest, shadow, Along]
  | stop process => simp [ReadsLatest, shadow, Along, ReadModifyWrite.Isolated]

/-! ## What is left of two observations -/

lemma counts_of_madeBy {start patterns : List WorkflowPattern} {count : ℕ}
    (hroom : start.length + count ≤ MAX_WORKFLOW_PATTERNS)
    (h : ReadModifyWrite.MadeBy (recordObservation platform hostSort) start patterns count) :
    observationCount patterns = observationCount start + count ∧
      patterns.length ≤ start.length + count := by
  obtain ⟨calls, hlength, hpatterns⟩ := h
  subst hlength hpatterns
  induction calls using List.reverseRecOn with
  | nil => simp
  | append_singleton calls call ih =>
      rw [List.length_append, List.length_singleton] at hroom
      obtain ⟨hcount, hlength⟩ := ih (by omega)
      have hnext := @recorded_counts platform hostSort
        (calls.foldl (recordObservation platform hostSort) start) (by omega) call.observation
        call.readings
      rw [List.foldl_append, List.foldl_cons, List.foldl_nil, List.length_append,
        List.length_singleton]
      refine ⟨?_, hnext.2.trans (by omega)⟩
      rw [recordObservation, hnext.1, hcount]
      push_cast
      ring

/-- While nothing is dropped, the patterns tell how many observations were recorded. -/
lemma tells_of_room {start : List WorkflowPattern} {bound : ℕ}
    (hroom : start.length + bound ≤ MAX_WORKFLOW_PATTERNS) :
    ReadModifyWrite.Tells (recordObservation platform hostSort) start bound := by
  intro patterns first second hfirst hsecond hmadeFirst hmadeSecond
  have hone := (counts_of_madeBy (by omega) hmadeFirst).1
  have hother := (counts_of_madeBy (by omega) hmadeSecond).1
  have hsame : (first : ℚ) = second := by linarith
  exact_mod_cast hsame

variable {start : List WorkflowPattern} {events : List (RecordingEvent ι)}
  {finish : PatternTable ι}

lemma reflects_of_readsLatest
    (hrun : run (recordingStep platform hostSort) (.opened start) events = some finish)
    (hlatest : Along (recordingStep platform hostSort) ReadsLatest (.opened start) events) :
    finish.Reflects platform hostSort start := by
  obtain ⟨saves, hsaves, hiff⟩ := exists_run_of_simulation PatternTable.shared
    (shadow platform hostSort) shared_step readsLatest_iff hrun
  exact (ReadModifyWrite.inOrder_of_isolated (hiff.mp hlatest) hsaves).reflects

lemma reflects_iff_of_room
    (hrun : run (recordingStep platform hostSort) (.opened start) events = some finish)
    (hroom : start.length + finish.committed.length ≤ MAX_WORKFLOW_PATTERNS) :
    finish.Reflects platform hostSort start ↔
      Along (recordingStep platform hostSort) ReadsLatest (.opened start) events := by
  obtain ⟨saves, hsaves, hiff⟩ := exists_run_of_simulation PatternTable.shared
    (shadow platform hostSort) shared_step readsLatest_iff hrun
  rw [hiff]
  exact ReadModifyWrite.reflects_iff hsaves (tells_of_room hroom)

/-- The table reflects every committed observation if each call reads it after the commit before
its own; while the table has room for all of them, it reflects them only then. -/
theorem observations_kept_iff
    (hrun : run (recordingStep platform hostSort) (.opened start) events = some finish) :
    (Along (recordingStep platform hostSort) ReadsLatest (.opened start) events →
        finish.Reflects platform hostSort start) ∧
      (start.length + finish.committed.length ≤ MAX_WORKFLOW_PATTERNS →
        (finish.Reflects platform hostSort start ↔
          Along (recordingStep platform hostSort) ReadsLatest (.opened start) events)) :=
  ⟨reflects_of_readsLatest hrun, reflects_iff_of_room hrun⟩

/-! ## Two processes -/

lemma validDates_workflow : ValidDates
    [("2026-01-01T00:00:00.000Z", 1767225600000), ("2026-01-02T00:00:00.000Z", 1767312000000)] := by
  decide

def workflowPlatform : BridgePlatform :=
  .ofDates
    [("2026-01-01T00:00:00.000Z", 1767225600000), ("2026-01-02T00:00:00.000Z", 1767312000000)]
    validDates_workflow

def deployObservation : WorkflowObservation where
  workflowKey := "deploy site"
  outcome := .success
  observedAt := "2026-01-01T00:00:00.000Z"
  domainLane := "workflow"
  contextTags := ["deploy"]
  supersedesKeys := none
  metadata := .empty

def deployCall : RecordedObservation where
  observation := deployObservation
  readings := { nowIso := "2026-01-02T00:00:00.000Z", newId := "workflow_pattern_1" }

def backupCall : RecordedObservation where
  observation := { deployObservation with workflowKey := "back up site" }
  readings := { nowIso := "2026-01-02T00:00:00.000Z", newId := "workflow_pattern_2" }

/-- What a process does for one call, from its reading on. -/
def recordingEvents (process : Bool) (call : RecordedObservation) : List (RecordingEvent Bool) :=
  [.read process call, .beginImmediate process, .rewrite process, .commit process]

/-- Both processes read the empty table before either of them begins its transaction. -/
def crossedCalls : List (RecordingEvent Bool) :=
  [.read true deployCall, .read false backupCall, .beginImmediate true, .rewrite true,
    .commit true, .beginImmediate false, .rewrite false, .commit false]

/-- Calls one after another are both in the table. -/
theorem calls_in_turn_are_kept :
    ∃ finish, run (recordingStep workflowPlatform .insertion) (.opened [])
        (recordingEvents true deployCall ++ recordingEvents false backupCall) = some finish ∧
      finish.committed.length = 2 ∧ finish.Reflects workflowPlatform .insertion [] := by
  have hrun : (run (recordingStep workflowPlatform .insertion) (.opened [])
      (recordingEvents true deployCall ++ recordingEvents false backupCall)).isSome := by
    decide +kernel
  obtain ⟨finish, hfinish⟩ := Option.isSome_iff_exists.mp hrun
  refine ⟨finish, hfinish, ?_, (observations_kept_iff hfinish).1 (by decide +kernel)⟩
  have hcommitted : (run (recordingStep workflowPlatform .insertion) (.opened [])
      (recordingEvents true deployCall ++ recordingEvents false backupCall)).map
        (·.committed.length) = some 2 := by decide +kernel
  simpa [hfinish] using hcommitted

/-- Crossed calls both return, and one observation is gone. -/
theorem crossed_call_is_lost :
    ∃ finish, run (recordingStep workflowPlatform .insertion) (.opened []) crossedCalls =
        some finish ∧ finish.committed.length = 2 ∧
      ¬ finish.Reflects workflowPlatform .insertion [] := by
  have hrun : (run (recordingStep workflowPlatform .insertion) (.opened [])
      crossedCalls).isSome := by decide
  obtain ⟨finish, hfinish⟩ := Option.isSome_iff_exists.mp hrun
  have hcommitted : (run (recordingStep workflowPlatform .insertion) (.opened [])
      crossedCalls).map (·.committed.length) = some 2 := by decide
  have htwo : finish.committed.length = 2 := by simpa [hfinish] using hcommitted
  refine ⟨finish, hfinish, htwo, fun hreflects => ?_⟩
  have hlatest := (reflects_iff_of_room hfinish (by simp [htwo, MAX_WORKFLOW_PATTERNS])).mp
    hreflects
  exact absurd hlatest (by decide)

end AgentBigBrain.Core

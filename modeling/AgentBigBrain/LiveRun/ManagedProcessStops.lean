import AgentBigBrain.LiveRun.ManagedProcessHandlers

/-!
# Stopped leases have stopped

A run reports no live process as stopped exactly if every accepted kill by pid hits a lease whose
process has been seen gone, no check downgrades a lease for a pid that it has left, and no stop
takes the close of an earlier process for that of the current one.
-/
namespace AgentBigBrain.LiveRun

open AgentBigBrain.Lib AgentBigBrain.Lib.Sighting

/-- What is asked of a step: the process of a stopped lease has been seen gone, so has that of a
lease for which a stop ends its wait or a handler reports PROCESS_STOPPED, and the close of a child
leaves the leases alone that stand for another process. -/
structure Truthful (state : LiveRunState) (event : LiveRunEvent) (next : LiveRunState) :
    Prop where
  stopped : ∀ leaseId record, next.registry.getRecord leaseId = some record →
    record.snapshot.statusCode = .PROCESS_STOPPED → SeenGone leaseId next.sightings
  answered : ∀ closed, event.waitAnswer state = some closed →
    SeenGone closed.leaseId next.sightings
  late : ∀ child leaseId exitCode signal, event = .childClosed child leaseId exitCode signal →
    ∀ other record, state.registry.getRecord other = some record → record.child ≠ some child →
      next.registry.getRecord other = some record
  reported : ∀ snapshot, event.report state = some (.success .PROCESS_STOPPED (some snapshot)) →
    SeenGone snapshot.leaseId next.sightings

/-- A new lease gets a new id. -/
def NewLease (state : LiveRunState) : LiveRunEvent → Prop
  | .started leaseId .. | .adopted leaseId .. => state.registry.getRecord leaseId = none
  | _ => True

/-- The steps that do not meet a defect. -/
def Accounted (state : LiveRunState) : LiveRunEvent → Prop
  | .killAnswered stop true =>
      stop ∈ state.stops → ∀ pid, stop.target = .pid pid → ∀ leaseId ∈ stop.leaseId,
        ∀ record, state.registry.getRecord leaseId = some record →
          SeenGone leaseId state.sightings
  | .checkInspected check none isProcessRunning =>
      check ∈ state.checks → check.FindsDead state.registry isProcessRunning →
        ∀ record, state.registry.getRecord check.leaseId = some record →
          check.persistedSnapshot.pid = record.snapshot.pid ∨
            SeenGone check.leaseId state.sightings
  | .waitSettled leaseId =>
      leaseId ∈ state.waits → ∀ closed ∈ raceClosed state.registry leaseId,
        SeenGone leaseId state.sightings
  | _ => True

/-! ## Records and the log -/

/-- The record of a lease says what the log knows. -/
structure Agrees (sightings : List (Sighting String ProcessThing)) (leaseId : String)
    (record : ManagedProcessRuntimeRecord) : Prop where
  pid : ∀ pid, .pid pid ∈ current leaseId sightings ↔ pid = record.snapshot.pid
  child : ∀ child ∈ record.child, .child child ∈ current leaseId sightings
  stopped : record.snapshot.statusCode = .PROCESS_STOPPED → SeenGone leaseId sightings
  promise : ∀ closed ∈ record.closePromise, closed.leaseId = leaseId

variable {sightings : List (Sighting String ProcessThing)} {leaseId : String}
  {record : ManagedProcessRuntimeRecord}

lemma Agrees.seen (h : Agrees sightings leaseId record) (things : List ProcessThing) :
    Agrees (things.map .gone ++ sightings) leaseId record where
  pid := by simpa using h.pid
  child := by simpa using h.child
  stopped hstopped := (h.stopped hstopped).append_gone things
  promise := h.promise

lemma Agrees.other (h : Agrees sightings leaseId record) {other : String} (hne : other ≠ leaseId)
    (things : List ProcessThing) : Agrees (.stands other things :: sightings) leaseId record where
  pid := by simpa only [current_stands_of_ne hne] using h.pid
  child := by simpa only [current_stands_of_ne hne] using h.child
  stopped hstopped := ⟨hne, h.stopped hstopped⟩
  promise := h.promise

/-- A record of the same process agrees with the log if its status and its promise do. -/
lemma Agrees.change (h : Agrees sightings leaseId record) {next : ManagedProcessRuntimeRecord}
    (hpid : next.snapshot.pid = record.snapshot.pid)
    (hchild : ∀ child ∈ next.child, child ∈ record.child)
    (hstopped : next.snapshot.statusCode = .PROCESS_STOPPED → SeenGone leaseId sightings)
    (hpromise : ∀ closed ∈ next.closePromise, closed.leaseId = leaseId) :
    Agrees sightings leaseId next where
  pid := by simpa only [hpid] using h.pid
  child child hmem := h.child child (hchild child hmem)
  stopped := hstopped
  promise := hpromise

lemma mem_resolveClose {snapshot closed : ManagedProcessSnapshot}
    (h : closed ∈ (record.resolveClose snapshot).closePromise) :
    closed ∈ record.closePromise ∨ closed = snapshot := by
  have hor : record.closePromise.or (some snapshot) = some closed := h
  cases hpromise : record.closePromise with
  | none =>
      rw [hpromise, Option.none_or] at hor
      exact .inr (Option.some.inj hor).symm
  | some earlier =>
      rw [hpromise, Option.some_or] at hor
      exact .inl hor

/-- A lease whose process has been seen gone may be marked stopped. -/
lemma Agrees.markStopped (h : Agrees sightings leaseId record)
    (hkey : record.snapshot.leaseId = leaseId) (hgone : SeenGone leaseId sightings)
    (exitCode : Option ℤ) (signal : Option String) :
    Agrees sightings leaseId (record.stopped exitCode signal) := by
  refine h.change rfl (fun child hchild => ?_) (fun _ => hgone) fun closed hclosed => ?_
  · cases hchild
  · obtain hearlier | rfl := mem_resolveClose hclosed
    · exact h.promise closed hearlier
    · exact hkey

/-! ## The invariant -/

/-- The records agree with the log, and a close listener is for a lease that stands for its child
or has no child any more. -/
structure Consistent (registry : ManagedProcessRegistry)
    (listeners : List (ChildProcess × String))
    (sightings : List (Sighting String ProcessThing)) : Prop where
  stored : registry.Stored
  agrees : ∀ leaseId record, registry.getRecord leaseId = some record →
    Agrees sightings leaseId record
  listeners : ∀ child leaseId, (child, leaseId) ∈ listeners →
    ∃ record, registry.getRecord leaseId = some record ∧ ∀ own ∈ record.child, own = child

variable {registry : ManagedProcessRegistry} {listeners : List (ChildProcess × String)}

lemma Consistent.mono (h : Consistent registry listeners sightings)
    {fewer : List (ChildProcess × String)} (hsub : fewer ⊆ listeners) :
    Consistent registry fewer sightings :=
  ⟨h.stored, h.agrees, fun child leaseId hmem => h.listeners child leaseId (hsub hmem)⟩

lemma Consistent.seen (h : Consistent registry listeners sightings)
    (things : List ProcessThing) :
    Consistent registry listeners (things.map .gone ++ sightings) :=
  ⟨h.stored, fun leaseId record hrecord => (h.agrees leaseId record hrecord).seen things,
    h.listeners⟩

open ManagedProcessRegistry in
/-- An update of a record keeps the invariant where the updated record agrees with the log. -/
lemma Consistent.updateRecord (h : Consistent registry listeners sightings)
    {update : ManagedProcessRuntimeRecord → Option ManagedProcessRuntimeRecord}
    (hkeeps : KeepsLease update) (leaseId : String)
    (hupdate : ∀ record next, registry.getRecord leaseId = some record →
      update record = some next →
        Agrees sightings leaseId next ∧ ∀ child ∈ next.child, child ∈ record.child) :
    Consistent (registry.updateRecord leaseId update) listeners sightings := by
  refine ⟨h.stored.updateRecord leaseId update, fun other next hnext => ?_,
    fun child other hmem => ?_⟩
  · obtain ⟨record, hrecord, rfl | ⟨rfl, hupdated⟩⟩ := getRecord_of_updateRecord hkeeps hnext
    · exact h.agrees other next hrecord
    · exact (hupdate record next hrecord hupdated).1
  · obtain ⟨record, hrecord, hown⟩ := h.listeners child other hmem
    rw [getRecord_updateRecord hkeeps]
    by_cases hsame : leaseId = other
    · subst hsame
      rw [if_pos rfl, hrecord, Option.map_some]
      refine ⟨_, rfl, fun own hmem => ?_⟩
      cases hupdated : update record with
      | none =>
          rw [hupdated, Option.getD_none] at hmem
          exact hown own hmem
      | some next =>
          rw [hupdated, Option.getD_some] at hmem
          exact hown own ((hupdate record next hrecord hupdated).2 own hmem)
    · rw [if_neg hsame]
      exact ⟨record, hrecord, hown⟩

open ManagedProcessRuntimeRecord

lemma Consistent.markObservedRunning (h : Consistent registry listeners sightings)
    (leaseId : String) : Consistent (registry.markObservedRunning leaseId) listeners sightings := by
  refine h.updateRecord keepsLease_observedRunning leaseId fun record next hrecord hnext => ?_
  have hagrees := h.agrees leaseId record hrecord
  unfold observedRunning at hnext
  split_ifs at hnext
  cases hnext
  exact ⟨hagrees.change rfl (fun _ hmem => hmem) (fun hstopped => nomatch hstopped)
    hagrees.promise, fun _ hmem => hmem⟩

lemma Consistent.markStopRequested (h : Consistent registry listeners sightings)
    (leaseId : String) : Consistent (registry.markStopRequested leaseId) listeners sightings := by
  refine h.updateRecord keepsLease_stopRequested leaseId fun record next hrecord hnext => ?_
  have hagrees := h.agrees leaseId record hrecord
  cases hnext
  exact ⟨hagrees.change rfl (fun _ hmem => hmem) hagrees.stopped hagrees.promise,
    fun _ hmem => hmem⟩

lemma Consistent.markRecoveredStopped (h : Consistent registry listeners sightings)
    {leaseId : String}
    (hgone : ∀ record, registry.getRecord leaseId = some record → SeenGone leaseId sightings)
    (exitCode : Option ℤ) (signal : Option String) :
    Consistent (registry.markRecoveredStopped leaseId exitCode signal) listeners sightings := by
  refine h.updateRecord (keepsLease_recoveredStopped exitCode signal) leaseId
    fun record next hrecord hnext => ?_
  unfold recoveredStopped at hnext
  split_ifs at hnext
  cases hnext
  exact ⟨(h.agrees leaseId record hrecord).markStopped
    (ManagedProcessRegistry.leaseId_of_getRecord hrecord) (hgone record hrecord) exitCode signal,
    fun child hmem => nomatch hmem⟩

/-- The close of a child is a sighting of the process of its lease, where the lease has a child. -/
lemma Consistent.markClosed (h : Consistent registry listeners sightings) {child : ChildProcess}
    {leaseId : String} (hmem : (child, leaseId) ∈ listeners) (exitCode : Option ℤ)
    (signal : Option String) :
    Consistent (registry.markClosed leaseId exitCode signal) listeners
      (.gone (.child child) :: sightings) := by
  have hseen := h.seen [.child child]
  refine hseen.updateRecord (keepsLease_closed exitCode signal) leaseId
    fun record next hrecord hnext => ?_
  unfold closed at hnext
  split_ifs at hnext with hskip
  cases hnext
  obtain ⟨own, hown⟩ := Option.ne_none_iff_exists'.mp fun hnone => hskip (.inr hnone)
  obtain ⟨listening, hlistening, hsame⟩ := h.listeners child leaseId hmem
  rw [hrecord] at hlistening
  cases hlistening
  have hgone : SeenGone leaseId (.gone (.child child) :: sightings) := by
    have hchild := hsame own hown
    subst hchild
    exact .inl ((h.agrees leaseId record hrecord).child own hown)
  exact ⟨(hseen.agrees leaseId record hrecord).markStopped
    (ManagedProcessRegistry.leaseId_of_getRecord hrecord) hgone exitCode signal,
    fun child hmem => nomatch hmem⟩

/-! ## Reconciliation -/

/-- A record that is found dead has its pid among the dead. -/
lemma mem_deadPids {isProcessAlive : Option ℕ → Bool} {records : List ManagedProcessRuntimeRecord}
    (hmem : record ∈ records) (hdead : record.FoundDead isProcessAlive) :
    .pid record.snapshot.pid ∈ deadPids isProcessAlive records :=
  List.mem_map.mpr ⟨record, List.mem_filter.mpr ⟨hmem, by simpa using hdead⟩, rfl⟩

lemma Agrees.reconciled (h : Agrees sightings leaseId record)
    (hkey : record.snapshot.leaseId = leaseId) {isProcessAlive : Option ℕ → Bool}
    {records : List ManagedProcessRuntimeRecord} (hmem : record ∈ records)
    {next : ManagedProcessRuntimeRecord}
    (hnext : record.reconciled isProcessAlive = some next) :
    Agrees ((deadPids isProcessAlive records).map .gone ++ sightings) leaseId next ∧
      next.child = record.child := by
  unfold ManagedProcessRuntimeRecord.reconciled at hnext
  split_ifs at hnext with hdead
  cases hnext
  have hgone : SeenGone leaseId ((deadPids isProcessAlive records).map .gone ++ sightings) :=
    (seenGone_gone_append leaseId _ sightings).mpr
      (.inl ⟨_, mem_deadPids hmem hdead, (h.pid _).mpr rfl⟩)
  refine ⟨(h.seen _).change rfl (fun _ hmem => hmem) (fun _ => hgone) fun closed hclosed => ?_,
    rfl⟩
  obtain hearlier | rfl := mem_resolveClose hclosed
  · exact h.promise closed hearlier
  · exact hkey

lemma Consistent.reconcileSnapshot (h : Consistent registry listeners sightings)
    (isProcessAlive : Option ℕ → Bool) (leaseId : String) :
    Consistent (registry.reconcileSnapshot isProcessAlive leaseId) listeners
      ((deadPids isProcessAlive (registry.getRecord leaseId).toList).map .gone ++ sightings) := by
  refine (h.seen _).updateRecord (keepsLease_reconciled isProcessAlive) leaseId
    fun record next hrecord hnext => ?_
  have hmem : record ∈ (registry.getRecord leaseId).toList := by simp [hrecord]
  obtain ⟨hagrees, hchild⟩ := (h.agrees leaseId record hrecord).reconciled
    (ManagedProcessRegistry.leaseId_of_getRecord hrecord) hmem hnext
  exact ⟨hagrees, fun child hmem => hchild ▸ hmem⟩

lemma Consistent.reconcilePersistedSnapshots (h : Consistent registry listeners sightings)
    (isProcessAlive : Option ℕ → Bool) :
    Consistent (registry.reconcilePersistedSnapshots isProcessAlive) listeners
      ((deadPids isProcessAlive registry.records).map .gone ++ sightings) := by
  have hnext : ∀ leaseId record, registry.getRecord leaseId = some record →
      Agrees ((deadPids isProcessAlive registry.records).map .gone ++ sightings) leaseId
        ((record.reconciled isProcessAlive).getD record) ∧
        ((record.reconciled isProcessAlive).getD record).child = record.child := by
    intro leaseId record hrecord
    have hagrees := h.agrees leaseId record hrecord
    cases hreconciled : record.reconciled isProcessAlive with
    | none => exact ⟨hagrees.seen _, rfl⟩
    | some next =>
        exact hagrees.reconciled (ManagedProcessRegistry.leaseId_of_getRecord hrecord)
          (recordMap.mem_of_find hrecord).1 hreconciled
  refine ⟨h.stored.reconcilePersistedSnapshots isProcessAlive, fun leaseId next hmem => ?_,
    fun child leaseId hmem => ?_⟩
  · rw [ManagedProcessRegistry.getRecord_reconcilePersistedSnapshots] at hmem
    obtain ⟨record, hrecord, rfl⟩ := Option.map_eq_some_iff.mp hmem
    exact (hnext leaseId record hrecord).1
  · obtain ⟨record, hrecord, hown⟩ := h.listeners child leaseId hmem
    rw [ManagedProcessRegistry.getRecord_reconcilePersistedSnapshots, hrecord, Option.map_some]
    refine ⟨_, rfl, ?_⟩
    rw [(hnext leaseId record hrecord).2]
    exact hown

/-- A start of the runtime keeps what its file says, without children and listeners. -/
lemma Consistent.hydratePersistedSnapshots (h : Consistent registry listeners sightings) :
    Consistent registry.hydratePersistedSnapshots [] sightings := by
  refine ⟨h.stored.hydratePersistedSnapshots, fun leaseId next hmem => ?_,
    fun child leaseId hmem => nomatch hmem⟩
  rw [ManagedProcessRegistry.getRecord_hydratePersistedSnapshots h.stored] at hmem
  split_ifs at hmem
  obtain ⟨record, hrecord, rfl⟩ := Option.map_eq_some_iff.mp hmem
  have hagrees := h.agrees leaseId record hrecord
  exact hagrees.change rfl (fun _ hmem => nomatch hmem) hagrees.stopped fun _ hmem => nomatch hmem

/-! ## New processes -/

/-- A lease that stands for something new is not stopped. -/
lemma agrees_stands {things : List ProcessThing}
    (hpid : ∀ pid, .pid pid ∈ things ↔ pid = record.snapshot.pid)
    (hchild : ∀ child ∈ record.child, .child child ∈ things)
    (hrunning : record.snapshot.statusCode ≠ .PROCESS_STOPPED)
    (hpromise : ∀ closed ∈ record.closePromise, closed.leaseId = leaseId) :
    Agrees (.stands leaseId things :: sightings) leaseId record where
  pid := by simpa using hpid
  child := by simpa using hchild
  stopped hstopped := absurd hstopped hrunning
  promise := hpromise

lemma Consistent.recover (h : Consistent registry listeners sightings) (leaseId : String)
    (details : RecoveredPreview) :
    Consistent (registry.markRecoveredRunning leaseId details) listeners
      (.stands leaseId [.pid (some details.pid)] :: sightings) := by
  have hkeeps := keepsLease_recoveredRunning details
  have hlookup := ManagedProcessRegistry.getRecord_updateRecord hkeeps registry leaseId
  refine ⟨h.stored.updateRecord leaseId _, fun other next hnext => ?_, fun child other hmem => ?_⟩
  · rw [ManagedProcessRegistry.markRecoveredRunning, hlookup] at hnext
    by_cases hsame : leaseId = other
    · subst hsame
      rw [if_pos rfl] at hnext
      obtain ⟨record, hrecord, rfl⟩ := Option.map_eq_some_iff.mp hnext
      refine agrees_stands (fun pid => ?_) (fun child hmem => nomatch hmem)
        (fun hstopped => nomatch hstopped) (h.agrees leaseId record hrecord).promise
      simp [recoveredRunning]
    · rw [if_neg hsame] at hnext
      exact (h.agrees other next hnext).other hsame _
  · obtain ⟨record, hrecord, hown⟩ := h.listeners child other hmem
    rw [ManagedProcessRegistry.markRecoveredRunning, hlookup]
    by_cases hsame : leaseId = other
    · rw [if_pos hsame, hrecord, Option.map_some]
      exact ⟨_, rfl, fun own hmem => nomatch hmem⟩
    · rw [if_neg hsame]
      exact ⟨record, hrecord, hown⟩

lemma Consistent.register (h : Consistent registry listeners sightings)
    (record : ManagedProcessRuntimeRecord)
    (hnew : registry.getRecord record.snapshot.leaseId = none)
    (hrunning : record.snapshot.statusCode ≠ .PROCESS_STOPPED)
    (hpromise : record.closePromise = none) (things : List ProcessThing)
    (hpid : ∀ pid, .pid pid ∈ things ↔ pid = record.snapshot.pid)
    (hchild : ∀ child ∈ record.child, .child child ∈ things) :
    Consistent (registry.setRecord record).persistSnapshots
      ((record.child.map (·, record.snapshot.leaseId)).toList ++ listeners)
      (.stands record.snapshot.leaseId things :: sightings) := by
  have hlookup : ∀ leaseId, (registry.setRecord record).persistSnapshots.getRecord leaseId =
      if record.snapshot.leaseId = leaseId then some record else registry.getRecord leaseId := by
    intro leaseId
    rw [ManagedProcessRegistry.getRecord_persistSnapshots,
      ManagedProcessRegistry.getRecord_setRecord]
  refine ⟨h.stored.setRecord record, fun leaseId next hnext => ?_, fun child leaseId hmem => ?_⟩
  · rw [hlookup] at hnext
    split_ifs at hnext with hsame
    · cases hnext
      subst hsame
      exact agrees_stands hpid hchild hrunning (by simp [hpromise])
    · exact (h.agrees leaseId next hnext).other hsame things
  · rw [hlookup]
    obtain hnewest | hold := List.mem_append.mp hmem
    · obtain ⟨own, hown, heq⟩ := Option.map_eq_some_iff.mp (Option.mem_toList.mp hnewest)
      cases heq
      rw [if_pos rfl]
      exact ⟨record, rfl, fun other hother => Option.mem_unique hother hown⟩
    · obtain ⟨held, hheld, hown⟩ := h.listeners child leaseId hold
      have hne : record.snapshot.leaseId ≠ leaseId := by
        rintro rfl
        rw [hnew] at hheld
        cases hheld
      rw [if_neg hne]
      exact ⟨held, hheld, hown⟩

/-! ## Steps -/

namespace LiveRunState

def Consistent (state : LiveRunState) : Prop :=
  LiveRun.Consistent state.registry state.listeners state.sightings

variable {state next : LiveRunState}

lemma consistent_recover (h : state.Consistent) (leaseId : String) (details : RecoveredPreview) :
    (state.recover leaseId details).Consistent := by
  unfold recover
  split
  · exact h
  · exact LiveRun.Consistent.recover h leaseId details

/-- A check that finds a pid dead has been told so, and the lease still stands for it or has been
seen gone before. -/
lemma consistent_finishCheck (h : state.Consistent) {check : CheckInFlight}
    {isProcessRunning : ℕ → Bool}
    (hpid : check.FindsDead state.registry isProcessRunning → ∀ record,
      state.registry.getRecord check.leaseId = some record →
        check.persistedSnapshot.pid = record.snapshot.pid ∨
          SeenGone check.leaseId state.sightings) :
    (state.finishCheck check isProcessRunning).Consistent := by
  unfold finishCheck CheckInFlight.marked
  refine LiveRun.Consistent.markObservedRunning ?_ check.leaseId
  by_cases hdead : check.FindsDead state.registry isProcessRunning
  · rw [if_pos hdead, if_pos hdead]
    refine LiveRun.Consistent.markRecoveredStopped (LiveRun.Consistent.seen h _)
      (fun record hrecord => ?_) none none
    refine (seenGone_gone_append check.leaseId
      [ProcessThing.pid check.persistedSnapshot.pid] _).mpr ?_
    obtain hsame | hgone := hpid hdead record hrecord
    · have hmem := ((h.agrees check.leaseId record hrecord).pid _).mpr hsame
      exact .inl ⟨_, List.mem_singleton_self _, hmem⟩
    · exact .inr hgone
  · rw [if_neg hdead, if_neg hdead]
    exact h

lemma consistent_beginCheck (h : state.Consistent) {leaseId : String}
    {snapshot : ManagedProcessSnapshot}
    (hsnapshot : state.registry.peekSnapshot leaseId = some snapshot)
    (isProcessRunning isRunningAfter : ℕ → Bool) :
    (state.beginCheck ⟨leaseId, snapshot⟩ isProcessRunning isRunningAfter).Consistent := by
  unfold beginCheck
  split
  · exact LiveRun.Consistent.seen h _
  · refine consistent_finishCheck h fun _ record hrecord => .inl ?_
    obtain ⟨held, hheld, rfl⟩ := Option.map_eq_some_iff.mp hsnapshot
    rw [hrecord] at hheld
    cases hheld
    rfl

lemma consistent_stopProgress
    {result : ManagedProcessRegistry × StopProgress}
    (hresult : LiveRun.Consistent result.1 state.listeners state.sightings) :
    (state.stopProgress result).Consistent := by
  unfold stopProgress
  split <;> exact hresult

lemma consistent_executeStopProcess (h : state.Consistent) (leaseId : Option String)
    (recoveredPid : Option ℕ) :
    LiveRun.Consistent (executeStopProcess state.registry leaseId recoveredPid).1
      state.listeners state.sightings := by
  unfold executeStopProcess
  split
  · exact h
  · exact h
  · have hmarked := LiveRun.Consistent.markStopRequested h
    dsimp only
    repeat' split
    all_goals exact hmarked _

/-- The stop of a lease keeps the invariant where a kill by pid hits a process that has been seen
gone. -/
lemma consistent_resume (h : state.Consistent) {stop : StopInFlight} {accepted : Bool}
    (hgone : accepted = true → ∀ pid, stop.target = .pid pid → ∀ leaseId ∈ stop.leaseId,
      ∀ record, state.registry.getRecord leaseId = some record →
        SeenGone leaseId state.sightings) :
    LiveRun.Consistent (stop.resume state.registry accepted).1 state.listeners
      state.sightings := by
  unfold StopInFlight.resume
  split_ifs with haccepted
  · split
    · exact h
    next leaseId hleaseId =>
      have hmarked : LiveRun.Consistent (stop.marked state.registry leaseId) state.listeners
          state.sightings := by
        unfold StopInFlight.marked
        split
        · exact h
        next pid htarget =>
          exact LiveRun.Consistent.markRecoveredStopped h
            (hgone haccepted pid htarget leaseId hleaseId) none (some "SIGTERM")
      split <;> exact hmarked
  · exact h

end LiveRunState

open LiveRunState

variable {state next : LiveRunState} {event : LiveRunEvent}

lemma consistent_newRuntime (hasSnapshotPath : Bool) :
    (newRuntime hasSnapshotPath).Consistent where
  stored := ⟨List.nodup_nil, by cases hasSnapshotPath <;> rfl⟩
  agrees := fun _ _ hrecord => nomatch hrecord
  listeners := fun _ _ hmem => nomatch hmem

theorem consistent_step (h : state.Consistent) (hnew : NewLease state event)
    (haccounted : Accounted state event) (hstep : liveRunStep state event = some next) :
    next.Consistent := by
  cases event with
  | started leaseId startedAt input child =>
      cases hstep
      let record : ManagedProcessRuntimeRecord :=
        { child := some child
          snapshot := input.snapshot leaseId startedAt child.pid .PROCESS_STARTED
          closePromise := none }
      have hrunning : record.snapshot.statusCode ≠ .PROCESS_STOPPED := nofun
      refine LiveRun.Consistent.register h record hnew hrunning rfl _ (fun pid => ?_) ?_
      · simp [record, ManagedProcessRegistry.LeaseInput.snapshot]
      · simp [record]
  | adopted leaseId startedAt input pid =>
      cases hstep
      let record : ManagedProcessRuntimeRecord :=
        { child := none
          snapshot := input.snapshot leaseId startedAt (some pid) .PROCESS_STILL_RUNNING
          closePromise := none }
      have hrunning : record.snapshot.statusCode ≠ .PROCESS_STOPPED := nofun
      refine LiveRun.Consistent.register h record hnew hrunning rfl _ (fun pid => ?_) ?_
      · simp [record, ManagedProcessRegistry.LeaseInput.snapshot]
      · simp [record]
  | promoted leaseId host candidate =>
      simp only [liveRunStep] at hstep
      split_ifs at hstep
      cases hstep
      exact consistent_recover h leaseId (candidate.details host)
  | aborted leaseId =>
      cases hstep
      exact LiveRun.Consistent.markStopRequested h leaseId
  | checkCalled leaseId isProcessRunning isRunningAfter =>
      cases leaseId with
      | none =>
          cases hstep
          exact h
      | some leaseId =>
          simp only [liveRunStep] at hstep
          split at hstep
          · cases hstep
            exact h
          next snapshot hsnapshot =>
            cases hstep
            exact consistent_beginCheck h hsnapshot isProcessRunning isRunningAfter
  | checkInspected check recovered isProcessRunning =>
      simp only [liveRunStep] at hstep
      split_ifs at hstep with hmem
      cases recovered with
      | none =>
          cases hstep
          exact consistent_finishCheck h (haccounted hmem)
      | some candidate =>
          cases hstep
          exact consistent_recover h check.leaseId _
  | stopCalled leaseId recoveredPid =>
      cases hstep
      exact consistent_stopProgress (consistent_executeStopProcess h leaseId recoveredPid)
  | killAnswered stop accepted =>
      simp only [liveRunStep] at hstep
      split_ifs at hstep with hmem
      cases hstep
      refine @consistent_stopProgress { state with stops := state.stops.erase stop } _
        (consistent_resume h fun haccepted => ?_)
      subst haccepted
      exact haccounted hmem
  | waitSettled leaseId =>
      simp only [liveRunStep] at hstep
      split_ifs at hstep
      cases hstep
      exact h
  | childClosed child leaseId exitCode signal =>
      simp only [liveRunStep] at hstep
      split_ifs at hstep with hmem
      cases hstep
      exact (LiveRun.Consistent.markClosed h hmem exitCode signal).mono List.erase_subset
  | snapshotRead leaseId isProcessAlive =>
      cases hstep
      exact LiveRun.Consistent.reconcileSnapshot h isProcessAlive leaseId
  | snapshotsListed isProcessAlive =>
      cases hstep
      exact LiveRun.Consistent.reconcilePersistedSnapshots h isProcessAlive
  | restarted isProcessAlive =>
      cases hstep
      exact (LiveRun.Consistent.hydratePersistedSnapshots h).reconcilePersistedSnapshots
        isProcessAlive

/-! ## What is answered -/

/-- A stopped snapshot is of a lease whose process has been seen gone. -/
lemma seenGone_of_peekSnapshot (h : Consistent registry listeners sightings) (leaseId : String)
    {snapshot : ManagedProcessSnapshot} (hpeek : registry.peekSnapshot leaseId = some snapshot)
    (hstopped : snapshot.statusCode = .PROCESS_STOPPED) :
    SeenGone snapshot.leaseId sightings := by
  obtain ⟨record, hrecord, rfl⟩ := Option.map_eq_some_iff.mp hpeek
  rw [ManagedProcessRegistry.leaseId_of_getRecord hrecord]
  exact (h.agrees leaseId record hrecord).stopped hstopped

lemma seenGone_of_waitForClosed (h : Consistent registry listeners sightings) (leaseId : String)
    {closed : ManagedProcessSnapshot}
    (hwait : waitForClosed registry leaseId = .answered (some closed)) :
    SeenGone closed.leaseId sightings := by
  unfold waitForClosed at hwait
  split at hwait
  · cases hwait
  next record hrecord =>
    split_ifs at hwait with hstopped
    cases hwait
    have hpeek : registry.peekSnapshot leaseId = some record.snapshot := by
      simp [ManagedProcessRegistry.peekSnapshot, hrecord]
    exact seenGone_of_peekSnapshot h leaseId hpeek hstopped

lemma snapshot_of_checkReport {answer : Option ManagedProcessSnapshot}
    {snapshot : ManagedProcessSnapshot}
    (h : checkReport answer = .success .PROCESS_STOPPED (some snapshot)) :
    answer = some snapshot ∧ snapshot.statusCode = .PROCESS_STOPPED := by
  unfold checkReport at h
  split at h
  · cases h
  · split_ifs at h with hstopped
    · cases h
      exact ⟨rfl, hstopped⟩
    · cases h

lemma snapshot_of_stopReport {closed : Option ManagedProcessSnapshot}
    {snapshot : ManagedProcessSnapshot}
    (h : stopReport closed = .success .PROCESS_STOPPED (some snapshot)) :
    closed = some snapshot := by
  cases closed with
  | none => cases h
  | some closed =>
      cases h
      rfl

lemma leaseId_of_raceClosed (h : Consistent registry listeners sightings) {leaseId : String}
    {closed : ManagedProcessSnapshot} (hclosed : raceClosed registry leaseId = some closed) :
    closed.leaseId = leaseId := by
  obtain ⟨record, hrecord, hpromise⟩ := Option.bind_eq_some_iff.mp hclosed
  exact (h.agrees leaseId record hrecord).promise closed hpromise

lemma registry_resume {stop : StopInFlight} {leaseId : String} (h : stop.leaseId = some leaseId) :
    (stop.resume registry true).1 = stop.marked registry leaseId := by
  unfold StopInFlight.resume
  rw [if_pos rfl, h]
  dsimp only
  split <;> rfl

@[simp] lemma registry_stopProgress (state : LiveRunState)
    (result : ManagedProcessRegistry × StopProgress) :
    (state.stopProgress result).registry = result.1 := by
  unfold LiveRunState.stopProgress
  split <;> rfl

@[simp] lemma sightings_stopProgress (state : LiveRunState)
    (result : ManagedProcessRegistry × StopProgress) :
    (state.stopProgress result).sightings = state.sightings := by
  unfold LiveRunState.stopProgress
  split <;> rfl

/-- The end of a wait is the close of the lease that was waited for. -/
lemma answered_of_consistent (h : state.Consistent) (hnext : next.Consistent)
    (hstep : liveRunStep state event = some next)
    (hwait : ∀ leaseId, event = .waitSettled leaseId → ∀ closed ∈ raceClosed state.registry leaseId,
      SeenGone leaseId state.sightings)
    {closed : ManagedProcessSnapshot} (hclosed : event.waitAnswer state = some closed) :
    SeenGone closed.leaseId next.sightings := by
  cases event with
  | killAnswered stop accepted =>
      cases accepted with
      | false => cases hclosed
      | true =>
          obtain ⟨leaseId, hleaseId, hanswer⟩ := Option.bind_eq_some_iff.mp hclosed
          simp only [liveRunStep] at hstep
          split_ifs at hstep
          cases hstep
          have hmarked : ({ state with stops := state.stops.erase stop }.stopProgress
              (stop.resume state.registry true)).registry = stop.marked state.registry leaseId := by
            rw [registry_stopProgress, registry_resume hleaseId]
          refine seenGone_of_waitForClosed hnext leaseId ?_
          rw [hmarked]
          split at hanswer
          next heq => rw [heq, hanswer]
          · cases hanswer
  | waitSettled leaseId =>
      simp only [liveRunStep] at hstep
      split_ifs at hstep
      cases hstep
      rw [leaseId_of_raceClosed h hclosed]
      exact hwait leaseId rfl closed hclosed
  | _ => cases hclosed

lemma report_resume {stop : StopInFlight} {accepted : Bool} {snapshot : ManagedProcessSnapshot}
    (h : (stop.resume registry accepted).2.report =
      some (.success .PROCESS_STOPPED (some snapshot))) :
    accepted = true ∧ ∃ leaseId, stop.leaseId = some leaseId ∧
      waitForClosed (stop.marked registry leaseId) leaseId = .answered (some snapshot) := by
  unfold StopInFlight.resume at h
  split_ifs at h with haccepted
  · refine ⟨haccepted, ?_⟩
    split at h
    · cases h
    next leaseId hleaseId =>
      refine ⟨leaseId, hleaseId, ?_⟩
      split at h
      next closed hwait =>
        rw [hwait, snapshot_of_stopReport (Option.some.inj h)]
      · cases h
  · cases h

lemma report_executeStopProcess {leaseId : Option String} {recoveredPid : Option ℕ}
    {snapshot : ManagedProcessSnapshot}
    (h : (executeStopProcess registry leaseId recoveredPid).2.report =
      some (.success .PROCESS_STOPPED (some snapshot))) :
    snapshot.statusCode = .PROCESS_STOPPED ∧ ∃ own, leaseId = some own ∧
      (executeStopProcess registry leaseId recoveredPid).1.peekSnapshot own = some snapshot := by
  unfold executeStopProcess at h ⊢
  split at h
  · cases h
  · cases h
  next own =>
    dsimp only at h ⊢
    split at h
    · cases h
    next held hheld =>
      split_ifs at h with hstopped
      · cases h
        refine ⟨hstopped.1, own, rfl, ?_⟩
        rw [if_pos hstopped]
        exact hheld
      · split at h <;> cases h

/-- A report of PROCESS_STOPPED is of a lease whose process has been seen gone. -/
lemma reported_of_consistent (h : state.Consistent) (hnext : next.Consistent)
    (hstep : liveRunStep state event = some next)
    (hwait : ∀ leaseId, event = .waitSettled leaseId → ∀ closed ∈ raceClosed state.registry leaseId,
      SeenGone leaseId state.sightings)
    {snapshot : ManagedProcessSnapshot}
    (hreport : event.report state = some (.success .PROCESS_STOPPED (some snapshot))) :
    SeenGone snapshot.leaseId next.sightings := by
  cases event with
  | checkCalled leaseId isProcessRunning isRunningAfter =>
      cases leaseId with
      | none => cases hreport
      | some leaseId =>
          simp only [LiveRunEvent.report] at hreport
          simp only [liveRunStep] at hstep
          cases hpeek : state.registry.peekSnapshot leaseId with
          | none =>
              rw [hpeek] at hreport
              cases hreport
          | some held =>
              rw [hpeek] at hreport hstep
              dsimp only at hreport hstep
              split_ifs at hreport with hrecover
              rw [LiveRunState.beginCheck, if_neg hrecover] at hstep
              cases hstep
              obtain ⟨hanswer, hstopped⟩ := snapshot_of_checkReport (Option.some.inj hreport)
              exact seenGone_of_peekSnapshot hnext leaseId hanswer hstopped
  | checkInspected check recovered isProcessRunning =>
      simp only [liveRunStep] at hstep
      split_ifs at hstep
      cases recovered with
      | some candidate => cases hreport
      | none =>
          cases hstep
          obtain ⟨hanswer, hstopped⟩ := snapshot_of_checkReport (Option.some.inj hreport)
          exact seenGone_of_peekSnapshot hnext check.leaseId hanswer hstopped
  | stopCalled leaseId recoveredPid =>
      cases hstep
      obtain ⟨hstopped, own, -, hpeek⟩ := report_executeStopProcess hreport
      refine seenGone_of_peekSnapshot hnext own ?_ hstopped
      rw [registry_stopProgress]
      exact hpeek
  | killAnswered stop accepted =>
      obtain ⟨rfl, leaseId, hleaseId, hanswer⟩ := report_resume hreport
      refine answered_of_consistent h hnext hstep hwait ?_
      simp only [LiveRunEvent.waitAnswer, hleaseId, Option.bind_some, hanswer]
  | waitSettled leaseId =>
      exact answered_of_consistent h hnext hstep hwait
        (snapshot_of_stopReport (Option.some.inj hreport))
  | _ => cases hreport

/-- The close of a child leaves the leases alone that stand for something else. -/
lemma late_of_consistent (h : state.Consistent) {child : ChildProcess} {leaseId : String}
    {exitCode : Option ℤ} {signal : Option String}
    (hstep : liveRunStep state (.childClosed child leaseId exitCode signal) = some next)
    {other : String} {record : ManagedProcessRuntimeRecord}
    (hrecord : state.registry.getRecord other = some record) (hchild : record.child ≠ some child) :
    next.registry.getRecord other = some record := by
  simp only [liveRunStep] at hstep
  split_ifs at hstep with hmem
  cases hstep
  have hlookup := ManagedProcessRegistry.getRecord_updateRecord
    (keepsLease_closed exitCode signal) state.registry leaseId other
  refine hlookup.trans ?_
  split_ifs with hsame
  · subst hsame
    obtain ⟨held, hheld, hown⟩ := h.listeners child leaseId hmem
    rw [hrecord] at hheld
    cases hheld
    have hnone : record.child = none := by
      cases hcase : record.child with
      | none => rfl
      | some own =>
          rw [hcase, hown own hcase] at hchild
          exact absurd rfl hchild
    rw [hrecord, Option.map_some, closed, if_pos (.inr hnone)]
    rfl
  · exact hrecord

/-! ## Runs -/

theorem truthful_of_accounted (h : state.Consistent) (hnew : NewLease state event)
    (haccounted : Accounted state event) (hstep : liveRunStep state event = some next) :
    Truthful state event next := by
  have hnext := consistent_step h hnew haccounted hstep
  have hwait : ∀ leaseId, event = .waitSettled leaseId →
      ∀ closed ∈ raceClosed state.registry leaseId, SeenGone leaseId state.sightings := by
    rintro leaseId rfl
    simp only [liveRunStep] at hstep
    split_ifs at hstep with hmem
    exact haccounted hmem
  refine ⟨fun leaseId record hrecord => (hnext.agrees leaseId record hrecord).stopped,
    fun closed hclosed => answered_of_consistent h hnext hstep hwait hclosed, ?_,
    fun snapshot hreport => reported_of_consistent h hnext hstep hwait hreport⟩
  rintro child leaseId exitCode signal rfl other record hrecord hchild
  exact late_of_consistent h hstep hrecord hchild

/-- A lease that is marked stopped has a stopped record, whatever it had before. -/
lemma status_markRecoveredStopped {leaseId : String} {record : ManagedProcessRuntimeRecord}
    (hrecord : registry.getRecord leaseId = some record) (exitCode : Option ℤ)
    (signal : Option String) :
    ∃ stopped, (registry.markRecoveredStopped leaseId exitCode signal).getRecord leaseId =
      some stopped ∧ stopped.snapshot.statusCode = .PROCESS_STOPPED := by
  have hlookup := ManagedProcessRegistry.getRecord_updateRecord
    (keepsLease_recoveredStopped exitCode signal) registry leaseId leaseId
  rw [if_pos rfl, hrecord, Option.map_some] at hlookup
  refine ⟨_, hlookup, ?_⟩
  unfold recoveredStopped
  split_ifs with hstopped
  · exact hstopped
  · rfl

lemma status_markObservedRunning {leaseId : String} {record : ManagedProcessRuntimeRecord}
    (hrecord : registry.getRecord leaseId = some record)
    (hstopped : record.snapshot.statusCode = .PROCESS_STOPPED) :
    (registry.markObservedRunning leaseId).getRecord leaseId = some record := by
  have hlookup := ManagedProcessRegistry.getRecord_updateRecord
    keepsLease_observedRunning registry leaseId leaseId
  rw [if_pos rfl, hrecord, Option.map_some] at hlookup
  have hnone : observedRunning record = none := by
    unfold observedRunning
    rw [if_neg (by rw [hstopped]; exact nofun)]
  rw [hnone] at hlookup
  exact hlookup

/-- A step that meets a defect is not truthful. -/
theorem accounted_of_truthful (h : state.Consistent)
    (htruthful : ∀ next, liveRunStep state event = some next → Truthful state event next) :
    Accounted state event := by
  cases event with
  | killAnswered stop accepted =>
      cases accepted with
      | false => trivial
      | true =>
          intro hmem pid htarget leaseId hleaseId record hrecord
          have hstep : liveRunStep state (.killAnswered stop true) =
              some ({ state with stops := state.stops.erase stop }.stopProgress
                (stop.resume state.registry true)) := if_pos hmem
          have hmarked : stop.marked state.registry leaseId =
              state.registry.markRecoveredStopped leaseId none (some "SIGTERM") := by
            unfold StopInFlight.marked
            rw [htarget]
          obtain ⟨stopped, hstopped, hstatus⟩ :=
            status_markRecoveredStopped hrecord none (some "SIGTERM")
          have hgone := (htruthful _ hstep).stopped leaseId stopped
          rw [registry_stopProgress, registry_resume hleaseId, hmarked,
            sightings_stopProgress] at hgone
          exact hgone hstopped hstatus
  | checkInspected check recovered isProcessRunning =>
      cases recovered with
      | some candidate => trivial
      | none =>
          intro hmem hdead record hrecord
          have hstep : liveRunStep state (.checkInspected check none isProcessRunning) =
              some { state.finishCheck check isProcessRunning with
                checks := state.checks.erase check } := if_pos hmem
          obtain ⟨stopped, hstopped, hstatus⟩ := status_markRecoveredStopped hrecord none none
          have hobserved := status_markObservedRunning hstopped hstatus
          have hgone := (htruthful _ hstep).stopped check.leaseId stopped
          simp only [LiveRunState.finishCheck, CheckInFlight.marked, if_pos hdead] at hgone
          have hseen := (seenGone_gone_append check.leaseId
            [ProcessThing.pid check.persistedSnapshot.pid] state.sightings).mp
            (hgone hobserved hstatus)
          obtain ⟨thing, hthing, hcurrent⟩ | hearlier := hseen
          · rw [List.mem_singleton.mp hthing] at hcurrent
            exact .inl (((h.agrees check.leaseId record hrecord).pid _).mp hcurrent)
          · exact .inr hearlier
  | waitSettled leaseId =>
      intro hmem closed hclosed
      have hstep : liveRunStep state (.waitSettled leaseId) =
          some { state with waits := state.waits.erase leaseId } := if_pos hmem
      have hgone := (htruthful _ hstep).answered closed hclosed
      rw [leaseId_of_raceClosed h hclosed] at hgone
      exact hgone
  | _ => trivial

/-- A run in which every new lease gets a new id reports only what has stopped as stopped exactly
if it meets none of the defects. -/
theorem managed_stops_truthful (hasSnapshotPath : Bool) (events : List LiveRunEvent) :
    Along liveRunStep (fun state event => NewLease state event ∧
        ∀ next, liveRunStep state event = some next → Truthful state event next)
        (newRuntime hasSnapshotPath) events ↔
      Along liveRunStep (fun state event => NewLease state event ∧ Accounted state event)
        (newRuntime hasSnapshotPath) events := by
  refine (along_iff_along (fun state event next h hcondition hstep => ?_)
    (fun state event h => ?_) (consistent_newRuntime hasSnapshotPath)).symm
  · exact consistent_step h hcondition.1 hcondition.2 hstep
  · refine and_congr_right fun hnew => ⟨fun haccounted next hstep => ?_, fun htruthful => ?_⟩
    · exact truthful_of_accounted h hnew haccounted hstep
    · exact accounted_of_truthful h htruthful

/-! ## Two runs -/

def previewInput : ManagedProcessRegistry.LeaseInput where
  actionId := "action_1"
  commandFingerprint := "npm run dev"
  cwd := "/home/user/site"
  shellExecutable := "/bin/bash"
  shellKind := "bash"
  requestedHost := some "127.0.0.1"
  requestedPort := some 3000
  requestedUrl := some "http://127.0.0.1:3000"
  taskId := none

def previewChild : ChildProcess where
  handle := 1
  pid := some 40

/-- After a restart the preview is stopped by its pid, and ignores the signal. -/
def ignoredKill : List LiveRunEvent :=
  [.started "proc_1" "2026-01-01T00:00:00.000Z" previewInput previewChild,
    .restarted fun _ => true,
    .stopCalled (some "proc_1") none,
    .killAnswered ⟨some "proc_1", .pid 40⟩ true]

/-- While a stop waits for its kill, the child closes and a check finds another preview. -/
def staleClose : List LiveRunEvent :=
  [.started "proc_1" "2026-01-01T00:00:00.000Z" previewInput previewChild,
    .stopCalled (some "proc_1") none,
    .childClosed previewChild "proc_1" none (some "SIGTERM"),
    .checkCalled (some "proc_1") (fun _ => false) fun _ => false,
    .checkInspected ⟨"proc_1", { previewInput.snapshot "proc_1" "2026-01-01T00:00:00.000Z"
        (some 40) .PROCESS_STOPPED with stopRequested := true, signal := some "SIGTERM" }⟩
      (some ⟨41, 3000⟩) fun _ => true,
    .killAnswered ⟨some "proc_1", .child previewChild⟩ true]

instance (state : LiveRunState) : ∀ event, Decidable (NewLease state event)
  | .started leaseId .. | .adopted leaseId .. =>
      inferInstanceAs (Decidable (state.registry.getRecord leaseId = none))
  | .promoted .. | .aborted .. | .checkCalled .. | .checkInspected .. | .stopCalled ..
  | .killAnswered .. | .waitSettled .. | .childClosed .. | .snapshotRead .. | .snapshotsListed ..
  | .restarted .. => inferInstanceAs (Decidable True)

/-- The first run ends with a stopped lease whose process nobody has seen gone. After the second
one a stop reports that lease as stopped, which stands for a process that runs. -/
theorem live_process_reported_stopped :
    (Along liveRunStep NewLease (newRuntime true) ignoredKill ∧
      ∃ state record, run liveRunStep (newRuntime true) ignoredKill = some state ∧
        state.registry.getRecord "proc_1" = some record ∧
        record.snapshot.statusCode = .PROCESS_STOPPED ∧
        ¬ SeenGone "proc_1" state.sightings) ∧
    (Along liveRunStep NewLease (newRuntime true) staleClose ∧
      ∃ state closed, run liveRunStep (newRuntime true) staleClose = some state ∧
        "proc_1" ∈ state.waits ∧
        (LiveRunEvent.waitSettled "proc_1").report state =
          some (.success .PROCESS_STOPPED (some closed)) ∧
        closed.leaseId = "proc_1" ∧ ¬ SeenGone "proc_1" state.sightings) := by
  refine ⟨⟨by decide, ?_⟩, ⟨by decide, ?_⟩⟩
  · exact ⟨_, _, rfl, rfl, by decide, by decide⟩
  · exact ⟨_, _, rfl, by decide, rfl, by decide, by decide⟩

end AgentBigBrain.LiveRun

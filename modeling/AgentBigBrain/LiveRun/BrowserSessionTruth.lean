import AgentBigBrain.LiveRun.BrowserSessionRegistry
import Mathlib.Logic.Relation

/-!
# Closed browser sessions stay closed

Whatever an operation of the registry does to a session is a chain of a few changes of its
record. Only the failed refresh of a page closes a session and leaves its control flag as it was.
The file brings every session back without its handle, and the reconciliation that follows may
close what it left alone while there was one.
-/
namespace AgentBigBrain.LiveRun

open AgentBigBrain.Js AgentBigBrain.Lib BrowserSessionRegistry

variable {η : Type}

inductive BrowserSessionEvent (η : Type) where
  | registeredManaged (details : SessionDetails) (handle : η)
  | registeredDetached (details : SessionDetails)
  | annotated (sessionId : String) (details : BrowserSessionRecord.Ownership)
  | reused (sessionId : String) (refresh : Refresh) (nowIso : String)
  | closeCalled (sessionId : String) (aborted : Bool) (closeProcessByPid : Option (ℤ → Bool))
      (nowIso : String)
  | linkedShutdown (sessionId : String) (nowIso : String)
  | leaseStopped (leaseId : String) (terminate : ℤ → Bool) (isProcessAlive : Option ℤ → Bool)
      (now : ClockTime)
  | snapshotRead (sessionId : String) (isProcessAlive : Option ℤ → Bool) (now : ClockTime)
  | snapshotsListed (isProcessAlive : Option ℤ → Bool) (now : ClockTime)
  | restarted (isProcessAlive : Option ℤ → Bool) (now : ClockTime)

def browserSessionStep (host : Host) (registry : BrowserSessionRegistry η) :
    BrowserSessionEvent η → Option (BrowserSessionRegistry η)
  | .registeredManaged details handle => some (registry.registerManagedSession host details handle)
  | .registeredDetached details => some (registry.registerDetachedSession host details)
  | .annotated sessionId details => some (registry.annotateSessionOwnership sessionId details)
  | .reused sessionId refresh nowIso => some (registry.reuseOpenSession sessionId refresh nowIso)
  | .closeCalled sessionId aborted closeProcessByPid nowIso =>
      some (registry.closeSession sessionId aborted closeProcessByPid nowIso)
  | .linkedShutdown sessionId nowIso =>
      some (registry.markSessionClosedFromLinkedResourceShutdown sessionId nowIso)
  | .leaseStopped leaseId terminate isProcessAlive now =>
      some (registry.closeLinkedBrowserSessionsForLease host leaseId terminate isProcessAlive now)
  | .snapshotRead sessionId isProcessAlive now =>
      some (registry.reconcileSnapshot host sessionId isProcessAlive now)
  | .snapshotsListed isProcessAlive now =>
      some (registry.reconcilePersistedSessions host isProcessAlive now)
  | .restarted isProcessAlive now => some (registry.rehydrated host isProcessAlive now)

/-- The registry before any session is registered; there is no file yet. -/
def newBrowserSessions (hasSnapshotPath : Bool) : BrowserSessionRegistry η where
  sessions := []
  hasSnapshotPath := hasSnapshotPath
  persisted := []

lemma getRecord_newBrowserSessions (hasSnapshotPath : Bool) (sessionId : String) :
    (newBrowserSessions hasSnapshotPath : BrowserSessionRegistry η).getRecord sessionId = none :=
  rfl

/-- The id that a registration writes. -/
def BrowserSessionEvent.registers : BrowserSessionEvent η → Option String
  | .registeredManaged details _ | .registeredDetached details => some details.sessionId
  | _ => none

/-- The refresh of this session fails. -/
def FailsRefresh (sessionId : String) (registry : BrowserSessionRegistry η)
    (event : BrowserSessionEvent η) : Prop :=
  (∃ nowIso, event = .reused sessionId .failed nowIso) ∧
    ∃ record, registry.getRecord sessionId = some record ∧ record.Reusable

/-! ## Changes of one record -/

/-- What an operation may do to the record of a session. -/
inductive Change (host : Host) (mayFail : Prop) :
    BrowserSessionRecord η → BrowserSessionRecord η → Prop
  | annotated (record : BrowserSessionRecord η) (details : BrowserSessionRecord.Ownership) :
      Change host mayFail record (record.annotated details)
  | reuseFailed (record : BrowserSessionRecord η) (nowIso : String) (hfails : mayFail) :
      Change host mayFail record (record.reuseFailed nowIso)
  | closed (record : BrowserSessionRecord η) (nowIso : String) :
      Change host mayFail record (record.markClosed nowIso)
  | linkedShutdown (record : BrowserSessionRecord η) (nowIso : String) :
      Change host mayFail record (record.closedFromLinkedResourceShutdown nowIso)
  | reconciled (record : BrowserSessionRecord η) (isProcessAlive : Option ℤ → Bool)
      (now : ClockTime) : Change host mayFail record (record.reconciled host isProcessAlive now)
  | hydrated (record : BrowserSessionRecord η) :
      Change host mayFail record record.toBrowserSessionSnapshot.hydratedRecord

abbrev Changes (host : Host) (mayFail : Prop) :
    BrowserSessionRecord η → BrowserSessionRecord η → Prop :=
  Relation.ReflTransGen (Change host mayFail)

variable {host : Host} {mayFail : Prop} {record next : BrowserSessionRecord η}

variable (host) in
lemma reconciled_cases (record : BrowserSessionRecord η) (isProcessAlive : Option ℤ → Bool)
    (now : ClockTime) :
    (record.ClosedByReconcile host isProcessAlive now ∧
        record.reconciled host isProcessAlive now =
          { record with
            status := .isClosed
            closedAt := record.closedAt.or (some now.iso)
            controlAvailable := false }) ∨
      (record.Unattended ∧ ¬ record.ShouldClose host isProcessAlive now ∧
        record.reconciled host isProcessAlive now =
          { record with
            controlAvailable := decide (record.controllerKind = .playwrightManaged ∧
              record.browserProcessPid.isSome ∧
              isProcessAlive record.browserProcessPid = true) }) ∨
      (¬ record.Unattended ∧ record.reconciled host isProcessAlive now = record) := by
  unfold BrowserSessionRecord.reconciled
  by_cases hunattended : record.Unattended
  · by_cases hclose : record.ShouldClose host isProcessAlive now
    · exact .inl ⟨⟨hunattended, hclose⟩, by rw [if_pos hunattended, if_pos hclose]⟩
    · exact .inr (.inl ⟨hunattended, hclose, by rw [if_pos hunattended, if_neg hclose]⟩)
  · exact .inr (.inr ⟨hunattended, if_neg hunattended⟩)

lemma Change.keeps_id (h : Change host mayFail record next) :
    next.sessionId = record.sessionId := by
  cases h with
  | reconciled isProcessAlive now =>
      obtain ⟨-, h⟩ | ⟨-, -, h⟩ | ⟨-, h⟩ := reconciled_cases host record isProcessAlive now
      all_goals rw [h]
  | _ => rfl

lemma Change.keeps_url (h : Change host mayFail record next) : next.url = record.url := by
  cases h with
  | reconciled isProcessAlive now =>
      obtain ⟨-, h⟩ | ⟨-, -, h⟩ | ⟨-, h⟩ := reconciled_cases host record isProcessAlive now
      all_goals rw [h]
  | _ => rfl

lemma Change.keeps_closed (h : Change host mayFail record next)
    (hclosed : record.status = .isClosed) : next.status = .isClosed := by
  cases h with
  | reconciled isProcessAlive now =>
      obtain ⟨hopen, -⟩ | ⟨hopen, -⟩ | ⟨-, h⟩ :=
        reconciled_cases host record isProcessAlive now
      · simp [hopen.1.1] at hclosed
      · simp [hopen.1] at hclosed
      · rwa [h]
  | annotated details => exact hclosed
  | hydrated => exact hclosed
  | _ => rfl

/-- What a closed session looks like, apart from its control flag; and only a pid controls an
open session without a handle. -/
structure Settled (record : BrowserSessionRecord η) : Prop where
  handle : record.status = .isClosed → record.handle = none
  closedAt : record.status = .isClosed → record.closedAt.isSome = true
  control : record.Unattended → record.browserProcessPid = none → record.controlAvailable = false

lemma Settled.change (hsettled : Settled record) (h : Change host mayFail record next) :
    Settled next := by
  cases h with
  | annotated details => exact ⟨hsettled.handle, hsettled.closedAt, hsettled.control⟩
  | reuseFailed nowIso hfails => exact ⟨fun _ => rfl, fun _ => rfl, fun h => by cases h.1⟩
  | closed nowIso => exact ⟨fun _ => rfl, fun _ => rfl, fun _ _ => rfl⟩
  | linkedShutdown nowIso =>
      refine ⟨fun _ => rfl, fun _ => ?_, fun _ _ => rfl⟩
      simp [BrowserSessionRecord.closedFromLinkedResourceShutdown]
  | hydrated =>
      refine ⟨fun _ => rfl, hsettled.closedAt, fun _ hpid => ?_⟩
      have hnone : record.browserProcessPid = none := hpid
      simp [BrowserSessionSnapshot.hydratedRecord, BrowserSessionSnapshot.pidControl, hnone]
  | reconciled isProcessAlive now =>
      obtain ⟨hclosed, h⟩ | ⟨hopen, -, h⟩ | ⟨-, h⟩ :=
        reconciled_cases host record isProcessAlive now
      · rw [h]
        exact ⟨fun _ => hclosed.1.2, fun _ => by simp, fun _ _ => rfl⟩
      · rw [h]
        have hstatus : record.status ≠ .isClosed := by simp [hopen.1]
        refine ⟨fun hclosed => absurd hclosed hstatus, fun hclosed => absurd hclosed hstatus, ?_⟩
        intro _ hpid
        have hnone : record.browserProcessPid = none := hpid
        simp [hnone]
      · rwa [h]

/-- Without a failed refresh a closed session has no control. -/
def Uncontrolled (record : BrowserSessionRecord η) : Prop :=
  record.status = .isClosed → record.controlAvailable = false

lemma Uncontrolled.change (hrecord : Uncontrolled record) (hfails : ¬ mayFail)
    (h : Change host mayFail record next) : Uncontrolled next := by
  cases h with
  | annotated details => exact hrecord
  | reuseFailed nowIso hfail => exact absurd hfail hfails
  | closed nowIso => exact fun _ => rfl
  | linkedShutdown nowIso => exact fun _ => rfl
  | hydrated =>
      intro hclosed
      have hstatus : record.status = .isClosed := hclosed
      simp [BrowserSessionSnapshot.hydratedRecord, BrowserSessionSnapshot.pidControl, hstatus]
  | reconciled isProcessAlive now =>
      obtain ⟨-, h⟩ | ⟨hopen, -, h⟩ | ⟨-, h⟩ :=
        reconciled_cases host record isProcessAlive now
      · rw [h]
        exact fun _ => rfl
      · rw [h]
        intro hclosed
        have hstatus : record.status = .isClosed := hclosed
        simp [hopen.1] at hstatus
      · rwa [h]

/-- A property that every change keeps, all changes of an operation keep. -/
lemma Changes.keep {P : BrowserSessionRecord η → Prop}
    (hstep : ∀ record next, P record → Change host mayFail record next → P next)
    (h : Changes host mayFail record next) (hrecord : P record) : P next := by
  induction h with
  | refl => exact hrecord
  | tail _ hlast ih => exact hstep _ _ ih hlast

/-! ## Changes of the registry -/

/-- Every session of the next registry stems from the record of its id. -/
def Evolves (host : Host) (mayFail : String → Prop)
    (registry next : BrowserSessionRegistry η) : Prop :=
  ∀ sessionId record', next.getRecord sessionId = some record' →
    ∃ record, registry.getRecord sessionId = some record ∧
      Changes host (mayFail sessionId) record record'

variable {failing : String → Prop} {registry middle finish : BrowserSessionRegistry η}

lemma Evolves.refl : Evolves host failing registry registry :=
  fun _ record' h => ⟨record', h, .refl⟩

lemma Evolves.trans (hfirst : Evolves host failing registry middle)
    (hsecond : Evolves host failing middle finish) : Evolves host failing registry finish := by
  intro sessionId record' h
  obtain ⟨between, hbetween, hlater⟩ := hsecond sessionId record' h
  obtain ⟨record, hrecord, hearlier⟩ := hfirst sessionId between hbetween
  exact ⟨record, hrecord, hearlier.trans hlater⟩

lemma Evolves.persistSessions (h : Evolves host failing registry finish) :
    Evolves host failing registry finish.persistSessions := by
  intro sessionId record' hrecord'
  exact h sessionId record' (by simpa using hrecord')

/-- An operation that makes one change to the record of one session. -/
lemma Evolves.updateRecord {update : BrowserSessionRecord η → Option (BrowserSessionRecord η)}
    {updated : String}
    (hupdate : ∀ record next, registry.getRecord updated = some record →
      update record = some next → Change host (failing updated) record next)
    (hkeeps : KeepsSession update) :
    Evolves host failing registry (registry.updateRecord updated update) := by
  intro sessionId record' hrecord'
  rw [getRecord_updateRecord hkeeps] at hrecord'
  split_ifs at hrecord' with hsame
  · subst hsame
    obtain ⟨record, hrecord, hnext⟩ := Option.map_eq_some_iff.mp hrecord'
    refine ⟨record, hrecord, ?_⟩
    cases hupdated : update record with
    | none =>
        rw [hupdated, Option.getD_none] at hnext
        rw [hnext]
    | some other =>
        rw [hupdated, Option.getD_some] at hnext
        rw [← hnext]
        exact .single (hupdate record other hrecord hupdated)
  · exact ⟨record', hrecord', .refl⟩

lemma evolves_annotateSessionOwnership (sessionId : String)
    (details : BrowserSessionRecord.Ownership) :
    Evolves host failing registry (registry.annotateSessionOwnership sessionId details) := by
  refine Evolves.updateRecord ?_ ?_
  · rintro record next - ⟨⟩
    exact .annotated record details
  · rintro record next ⟨⟩
    rfl

lemma evolves_reuseOpenSession (sessionId : String) (refresh : Refresh) (nowIso : String)
    (hfails : ∀ record, registry.getRecord sessionId = some record → record.Reusable →
      refresh = .failed → failing sessionId) :
    Evolves host failing registry (registry.reuseOpenSession sessionId refresh nowIso) := by
  refine Evolves.updateRecord ?_ ?_
  · intro record next hrecord h
    split_ifs at h with hfailed
    cases h
    exact .reuseFailed record nowIso (hfails record hrecord hfailed.1 hfailed.2)
  · intro record next h
    dsimp only at h
    split_ifs at h
    cases h
    rfl

lemma closeAfter_eq_some {nowIso : String} {teardown : BrowserSessionRecord.Teardown η}
    (h : record.closeAfter nowIso teardown = some next) :
    next = record.markClosed nowIso ∧ ∀ pid, teardown ≠ .askedTerminator pid false := by
  cases teardown with
  | handleClosed handle =>
      cases h
      exact ⟨rfl, nofun⟩
  | nothing =>
      cases h
      exact ⟨rfl, nofun⟩
  | askedTerminator pid closedByPid =>
      cases closedByPid with
      | false => cases h
      | true =>
          cases h
          exact ⟨rfl, nofun⟩

lemma evolves_closeSession (sessionId : String) (aborted : Bool)
    (closeProcessByPid : Option (ℤ → Bool)) (nowIso : String) :
    Evolves host failing registry
      (registry.closeSession sessionId aborted closeProcessByPid nowIso) := by
  refine Evolves.updateRecord ?_ ?_
  · intro record next _ h
    split_ifs at h
    rw [(closeAfter_eq_some h).1]
    exact .closed record nowIso
  · intro record next h
    dsimp only at h
    split_ifs at h
    rw [(closeAfter_eq_some h).1]
    rfl

lemma evolves_markSessionClosedFromLinkedResourceShutdown (sessionId nowIso : String) :
    Evolves host failing registry
      (registry.markSessionClosedFromLinkedResourceShutdown sessionId nowIso) := by
  refine Evolves.updateRecord ?_ ?_
  · intro record next _ h
    split_ifs at h
    cases h
    exact .linkedShutdown record nowIso
  · intro record next h
    dsimp only at h
    split_ifs at h
    cases h
    rfl

variable (isProcessAlive : Option ℤ → Bool) (now : ClockTime)

variable (host) in
lemma sessionId_reconciled (record : BrowserSessionRecord η) :
    (record.reconciled host isProcessAlive now).sessionId = record.sessionId := by
  have hchange : Change host True record (record.reconciled host isProcessAlive now) :=
    .reconciled record isProcessAlive now
  exact hchange.keeps_id

lemma getRecord_reconcilePersistedSessions (sessionId : String) :
    (registry.reconcilePersistedSessions host isProcessAlive now).getRecord sessionId =
      (registry.getRecord sessionId).map (·.reconciled host isProcessAlive now) := by
  have hmap := (sessionMap η).find_map (·.reconciled host isProcessAlive now)
    (sessionId_reconciled host isProcessAlive now) sessionId registry.sessions
  unfold reconcilePersistedSessions
  split
  · rw [getRecord_persistSessions]
    exact hmap
  · exact hmap

lemma evolves_reconcilePersistedSessions :
    Evolves host failing registry
      (registry.reconcilePersistedSessions host isProcessAlive now) := by
  intro sessionId record' h
  rw [getRecord_reconcilePersistedSessions] at h
  obtain ⟨record, hrecord, rfl⟩ := Option.map_eq_some_iff.mp h
  exact ⟨record, hrecord, .single (.reconciled record isProcessAlive now)⟩

lemma evolves_reconcileSnapshot (sessionId : String) :
    Evolves host failing registry
      (registry.reconcileSnapshot host sessionId isProcessAlive now) := by
  unfold reconcileSnapshot
  cases hrecord : registry.getRecord sessionId with
  | none => exact .refl
  | some record =>
      have hset : Evolves host failing registry
          (registry.setRecord (record.reconciled host isProcessAlive now)) := by
        intro other record' hother
        rw [getRecord_setRecord, sessionId_reconciled, sessionId_of_getRecord hrecord] at hother
        split_ifs at hother with hsame
        · cases hother
          exact ⟨record, hsame ▸ hrecord, .single (.reconciled record isProcessAlive now)⟩
        · exact ⟨record', hother, .refl⟩
      dsimp only
      split
      · exact hset.persistSessions
      · exact hset

lemma evolves_closeLinkedSession (terminate : ℤ → Bool) (nowIso : String)
    (openSnapshot : BrowserSessionSnapshot) :
    Evolves host failing registry
      (closeLinkedSession terminate nowIso registry openSnapshot) := by
  have hclose : Evolves host failing registry
      (registry.closeSession openSnapshot.sessionId false (some terminate) nowIso) :=
    evolves_closeSession _ _ _ _
  unfold closeLinkedSession
  split
  · exact evolves_markSessionClosedFromLinkedResourceShutdown _ _
  · dsimp only
    split
    · exact hclose.trans (evolves_markSessionClosedFromLinkedResourceShutdown _ _)
    · exact hclose

lemma evolves_closeLinkedSessions (terminate : ℤ → Bool) (nowIso : String)
    (linked : List BrowserSessionSnapshot) :
    Evolves host failing registry
      (linked.foldl (closeLinkedSession terminate nowIso) registry) := by
  induction linked generalizing registry with
  | nil => exact .refl
  | cons openSnapshot linked ih =>
      exact (evolves_closeLinkedSession terminate nowIso openSnapshot).trans ih

lemma evolves_closeLinkedBrowserSessionsForLease (leaseId : String) (terminate : ℤ → Bool) :
    Evolves host failing registry
      (registry.closeLinkedBrowserSessionsForLease host leaseId terminate isProcessAlive now) :=
  (evolves_reconcilePersistedSessions isProcessAlive now).trans
    (evolves_closeLinkedSessions terminate now.iso _)

/-! ## The file of the registry -/

@[simp] lemma pidControl_persistedForm (snapshot : BrowserSessionSnapshot) :
    snapshot.persistedForm.pidControl = snapshot.pidControl := rfl

/-- A record without its handle. -/
abbrev withoutHandle (record : BrowserSessionRecord η) : BrowserSessionRecord η :=
  record.toBrowserSessionSnapshot.hydratedRecord

/-- The file holds what the registry holds. -/
structure Filed (registry : BrowserSessionRegistry η) : Prop where
  distinct : (sessionMap η).Distinct registry.sessions
  persisted : registry.hasSnapshotPath = true → registry.persisted =
    registry.sessions.map fun record => record.toBrowserSessionSnapshot.persistedForm

lemma Filed.persistSessions (hdistinct : (sessionMap η).Distinct registry.sessions) :
    Filed registry.persistSessions := by
  unfold BrowserSessionRegistry.persistSessions
  by_cases hpath : registry.hasSnapshotPath = true
  · rw [if_pos hpath]
    exact ⟨hdistinct, fun _ => rfl⟩
  · rw [if_neg hpath]
    exact ⟨hdistinct, fun h => absurd h hpath⟩

lemma Filed.setRecord (h : Filed registry) (record : BrowserSessionRecord η) :
    Filed (registry.setRecord record).persistSessions :=
  .persistSessions ((sessionMap η).distinct_upsert h.distinct)

lemma Filed.updateRecord (h : Filed registry) (sessionId : String)
    (update : BrowserSessionRecord η → Option (BrowserSessionRecord η)) :
    Filed (registry.updateRecord sessionId update) := by
  unfold BrowserSessionRegistry.updateRecord
  split
  · exact h
  · exact h.setRecord _

lemma Filed.register (h : Filed registry) (details : SessionDetails)
    (controllerKind : BrowserSessionControllerKind) (handle : Option η) :
    Filed (registry.register host details controllerKind handle) := by
  unfold BrowserSessionRegistry.register
  split
  · exact h
  · exact h.setRecord _

/-- A record that the reconciliation does not close is written as it was. -/
lemma persistedForm_reconciled
    (h : ¬ record.ClosedByReconcile host isProcessAlive now) :
    (record.reconciled host isProcessAlive now).toBrowserSessionSnapshot.persistedForm =
      record.toBrowserSessionSnapshot.persistedForm := by
  obtain ⟨hclosed, -⟩ | ⟨-, -, heq⟩ | ⟨-, heq⟩ :=
    reconciled_cases host record isProcessAlive now
  · exact absurd hclosed h
  · rw [heq]
    rfl
  · rw [heq]

variable (host) in
lemma distinct_reconciled (h : Filed registry) :
    (sessionMap η).Distinct
      (registry.sessions.map (·.reconciled host isProcessAlive now)) := by
  have hkeys : (sessionMap η).key ∘ (·.reconciled host isProcessAlive now) =
      (sessionMap η).key := funext (sessionId_reconciled host isProcessAlive now)
  unfold KeyedMerge.Distinct
  rw [List.map_map, hkeys]
  exact h.distinct

lemma Filed.reconcilePersistedSessions (h : Filed registry) :
    Filed (registry.reconcilePersistedSessions host isProcessAlive now) := by
  have hdistinct := distinct_reconciled host isProcessAlive now h
  unfold BrowserSessionRegistry.reconcilePersistedSessions
  split
  · exact .persistSessions hdistinct
  · rename_i hnone
    refine ⟨hdistinct, fun hpath => ?_⟩
    push Not at hnone
    dsimp only
    rw [h.persisted hpath, List.map_map]
    exact List.map_congr_left fun record hrecord =>
      (persistedForm_reconciled isProcessAlive now (hnone record hrecord)).symm

lemma Filed.reconcileSnapshot (h : Filed registry) (sessionId : String) :
    Filed (registry.reconcileSnapshot host sessionId isProcessAlive now) := by
  unfold BrowserSessionRegistry.reconcileSnapshot
  cases hrecord : registry.getRecord sessionId with
  | none => exact h
  | some record =>
      dsimp only
      split
      · exact h.setRecord _
      · rename_i hclosed
        have hid := sessionId_reconciled host isProcessAlive now record
        have hmem : (sessionMap η).key (record.reconciled host isProcessAlive now) ∈
            registry.sessions.map (sessionMap η).key := by
          rw [show (sessionMap η).key (record.reconciled host isProcessAlive now) =
            (sessionMap η).key record from hid]
          exact List.mem_map_of_mem (mem_of_getRecord hrecord)
        refine ⟨(sessionMap η).distinct_upsert h.distinct, fun hpath => ?_⟩
        change registry.persisted = ((sessionMap η).upsert _ registry.sessions).map _
        rw [(sessionMap η).upsert_eq_map h.distinct hmem, h.persisted hpath, List.map_map]
        refine List.map_congr_left fun other hother => ?_
        dsimp only [Function.comp]
        split
        · rename_i hsame
          have heq : other = record := (sessionMap η).eq_of_distinct h.distinct hother
            (mem_of_getRecord hrecord) (hsame.trans hid)
          rw [heq]
          exact (persistedForm_reconciled isProcessAlive now hclosed).symm
        · rfl

lemma Filed.closeLinkedBrowserSessionsForLease (h : Filed registry) (leaseId : String)
    (terminate : ℤ → Bool) : Filed
      (registry.closeLinkedBrowserSessionsForLease host leaseId terminate isProcessAlive now) := by
  have hone : ∀ (registry : BrowserSessionRegistry η) (openSnapshot : BrowserSessionSnapshot),
      Filed registry → Filed (closeLinkedSession terminate now.iso registry openSnapshot) := by
    intro registry openSnapshot h
    unfold closeLinkedSession
    split
    · exact h.updateRecord _ _
    · dsimp only
      split
      · exact (h.updateRecord _ _).updateRecord _ _
      · exact h.updateRecord _ _
  exact List.foldlRecOn _ _ (h.reconcilePersistedSessions isProcessAlive now)
    fun registry hregistry openSnapshot _ => hone registry openSnapshot hregistry

/-- `new URL` reads back what it has printed. -/
def HrefStable (host : Host) : Prop :=
  ∀ url parts, host.parseUrl url = some parts →
    ∃ again, host.parseUrl parts.href = some again ∧ again.href = parts.href

/-- The URL of the record is one that `new URL` has printed. -/
def Printed (host : Host) (record : BrowserSessionRecord η) : Prop :=
  normalizeSessionUrl host record.url = some record.url

lemma Printed.of_normalizeSessionUrl (hstable : HrefStable host) {url printed : String}
    (h : normalizeSessionUrl host url = some printed) :
    normalizeSessionUrl host printed = some printed := by
  obtain ⟨parts, hparts, rfl⟩ := Option.map_eq_some_iff.mp h
  obtain ⟨again, hagain, hsame⟩ := hstable url parts hparts
  exact Option.map_eq_some_iff.mpr ⟨again, hagain, hsame⟩

/-- What the next start reads from the file. -/
lemma readBrowserSessionPersistedState_eq (h : Filed registry)
    (hprinted : ∀ record ∈ registry.sessions, Printed host record)
    (hpath : registry.hasSnapshotPath = true) :
    registry.readBrowserSessionPersistedState host =
      registry.sessions.map fun record => record.toBrowserSessionSnapshot.persistedForm := by
  have hread : ∀ sessions : List (BrowserSessionRecord η),
      (∀ record ∈ sessions, Printed host record) →
      (sessions.map fun record => record.toBrowserSessionSnapshot.persistedForm).mapM
          (BrowserSessionSnapshot.normalizePersistedBrowserSession host) =
        some (sessions.map fun record => record.toBrowserSessionSnapshot.persistedForm) := by
    intro sessions
    induction sessions with
    | nil => exact fun _ => rfl
    | cons record sessions ih =>
        intro hall
        have hfirst : record.toBrowserSessionSnapshot.persistedForm.normalizePersistedBrowserSession
            host = some record.toBrowserSessionSnapshot.persistedForm := by
          have hurl : normalizeSessionUrl host
              record.toBrowserSessionSnapshot.persistedForm.url = some record.url :=
            hall record List.mem_cons_self
          rw [BrowserSessionSnapshot.normalizePersistedBrowserSession, hurl]
          rfl
        rw [List.map_cons, List.mapM_cons, hfirst,
          ih fun other hother => hall other (List.mem_cons_of_mem record hother)]
        rfl
  unfold readBrowserSessionPersistedState
  rw [if_pos hpath, h.persisted hpath, hread registry.sessions hprinted, Option.getD_some]

lemma distinct_withoutHandle (h : Filed registry) :
    (sessionMap η).Distinct (registry.sessions.map withoutHandle) := by
  unfold KeyedMerge.Distinct
  rw [List.map_map]
  exact h.distinct

/-- The registry of the next start, before its sessions are reconciled. -/
def hydratedRegistry (registry : BrowserSessionRegistry η) : BrowserSessionRegistry η :=
  { registry with
    sessions :=
      if registry.hasSnapshotPath = true then registry.sessions.map withoutHandle else [] }

lemma rehydrated_eq (h : Filed registry)
    (hprinted : ∀ record ∈ registry.sessions, Printed host record) :
    registry.rehydrated host isProcessAlive now =
      (hydratedRegistry registry).reconcilePersistedSessions host isProcessAlive now := by
  unfold rehydrated hydratedRegistry
  by_cases hpath : registry.hasSnapshotPath = true
  · have hcollect := (sessionMap η).collect_nil_of_distinct (distinct_withoutHandle h)
    rw [readBrowserSessionPersistedState_eq h hprinted hpath, List.map_map, if_pos hpath]
    dsimp only
    have hsame : (BrowserSessionSnapshot.hydratedRecord ∘
        fun record : BrowserSessionRecord η => record.toBrowserSessionSnapshot.persistedForm) =
          withoutHandle := rfl
    rw [hsame, hcollect]
  · unfold readBrowserSessionPersistedState
    rw [if_neg hpath, if_neg hpath]
    rfl

lemma Filed.rehydrated (h : Filed registry)
    (hprinted : ∀ record ∈ registry.sessions, Printed host record) :
    Filed (registry.rehydrated host isProcessAlive now) := by
  rw [rehydrated_eq isProcessAlive now h hprinted]
  refine Filed.reconcilePersistedSessions isProcessAlive now ?_
  by_cases hpath : registry.hasSnapshotPath = true
  · unfold hydratedRegistry
    rw [if_pos hpath]
    refine ⟨distinct_withoutHandle h, fun _ => ?_⟩
    dsimp only
    rw [h.persisted hpath, List.map_map]
    rfl
  · unfold hydratedRegistry
    rw [if_neg hpath]
    exact ⟨List.nodup_nil, fun hother => absurd hother hpath⟩

lemma getRecord_hydratedRegistry (hpath : registry.hasSnapshotPath = true) (sessionId : String) :
    (hydratedRegistry registry).getRecord sessionId =
      (registry.getRecord sessionId).map withoutHandle := by
  unfold hydratedRegistry
  rw [if_pos hpath]
  exact (sessionMap η).find_map withoutHandle (fun _ => rfl) sessionId registry.sessions

lemma evolves_rehydrated (h : Filed registry)
    (hprinted : ∀ record ∈ registry.sessions, Printed host record) :
    Evolves host failing registry (registry.rehydrated host isProcessAlive now) := by
  rw [rehydrated_eq isProcessAlive now h hprinted]
  refine Evolves.trans ?_ (evolves_reconcilePersistedSessions isProcessAlive now)
  intro sessionId record' hrecord'
  by_cases hpath : registry.hasSnapshotPath = true
  · rw [getRecord_hydratedRegistry hpath] at hrecord'
    obtain ⟨record, hrecord, rfl⟩ := Option.map_eq_some_iff.mp hrecord'
    exact ⟨record, hrecord, .single (.hydrated record)⟩
  · have hmem := mem_of_getRecord hrecord'
    rw [hydratedRegistry, if_neg hpath] at hmem
    exact absurd hmem List.not_mem_nil

/-! ## Steps -/

/-- What holds of the registry between its operations. -/
structure Kept (host : Host) (registry : BrowserSessionRegistry η) : Prop where
  filed : Filed registry
  printed : ∀ record ∈ registry.sessions, Printed host record
  settled : ∀ record ∈ registry.sessions, Settled record

/-- A record as a registration writes it. -/
def New (host : Host) (record : BrowserSessionRecord η) : Prop :=
  ∃ (details : SessionDetails) (url : String) (controllerKind : BrowserSessionControllerKind)
    (handle : Option η), normalizeSessionUrl host details.url = some url ∧
      record = details.record url controllerKind handle

lemma New.settled (h : New host record) : Settled record := by
  obtain ⟨details, url, controllerKind, handle, -, rfl⟩ := h
  refine ⟨nofun, nofun, fun hunattended _ => ?_⟩
  have hnone : handle = none := hunattended.2
  rw [hnone]
  rfl

lemma getRecord_register {details : SessionDetails}
    {controllerKind : BrowserSessionControllerKind} {handle : Option η} {sessionId : String}
    (h : (registry.register host details controllerKind handle).getRecord sessionId =
      some record) :
    (details.sessionId = sessionId ∧ New host record) ∨
      registry.getRecord sessionId = some record := by
  unfold register at h
  split at h
  · exact .inr h
  · rename_i url hurl
    rw [getRecord_persistSessions, getRecord_setRecord] at h
    split_ifs at h with hsame
    · cases h
      exact .inl ⟨hsame, details, url, controllerKind, handle, hurl, rfl⟩
    · exact .inr h

/-- A session after an operation is newly registered, or stems from the record of its id. -/
lemma browserSessionStep_cases {event : BrowserSessionEvent η} (hkept : Kept host registry)
    (hstep : browserSessionStep host registry event = some finish) {sessionId : String}
    (hrecord : finish.getRecord sessionId = some next) :
    (event.registers = some sessionId ∧ New host next) ∨
      ∃ record, registry.getRecord sessionId = some record ∧
        Changes host (FailsRefresh sessionId registry event) record next := by
  have hold : registry.getRecord sessionId = some next → ∃ record,
      registry.getRecord sessionId = some record ∧
        Changes host (FailsRefresh sessionId registry event) record next :=
    fun h => ⟨next, h, .refl⟩
  have hevolved : Evolves host (fun sessionId => FailsRefresh sessionId registry event)
      registry finish → ∃ record, registry.getRecord sessionId = some record ∧
        Changes host (FailsRefresh sessionId registry event) record next :=
    fun h => h sessionId next hrecord
  cases event with
  | registeredManaged details handle =>
      cases hstep
      exact (getRecord_register hrecord).imp (fun h => ⟨congrArg some h.1, h.2⟩) hold
  | registeredDetached details =>
      cases hstep
      exact (getRecord_register hrecord).imp (fun h => ⟨congrArg some h.1, h.2⟩) hold
  | annotated annotatedId details =>
      cases hstep
      exact .inr (hevolved (evolves_annotateSessionOwnership annotatedId details))
  | reused reusedId refresh nowIso =>
      cases hstep
      refine .inr (hevolved (evolves_reuseOpenSession reusedId refresh nowIso ?_))
      rintro record hreused hreusable rfl
      exact ⟨⟨nowIso, rfl⟩, record, hreused, hreusable⟩
  | closeCalled closedId aborted closeProcessByPid nowIso =>
      cases hstep
      exact .inr (hevolved (evolves_closeSession closedId aborted closeProcessByPid nowIso))
  | linkedShutdown closedId nowIso =>
      cases hstep
      exact .inr (hevolved
        (evolves_markSessionClosedFromLinkedResourceShutdown closedId nowIso))
  | leaseStopped leaseId terminate isProcessAlive now =>
      cases hstep
      exact .inr (hevolved
        (evolves_closeLinkedBrowserSessionsForLease isProcessAlive now leaseId terminate))
  | snapshotRead readId isProcessAlive now =>
      cases hstep
      exact .inr (hevolved (evolves_reconcileSnapshot isProcessAlive now readId))
  | snapshotsListed isProcessAlive now =>
      cases hstep
      exact .inr (hevolved (evolves_reconcilePersistedSessions isProcessAlive now))
  | restarted isProcessAlive now =>
      cases hstep
      exact .inr (hevolved (evolves_rehydrated isProcessAlive now hkept.filed hkept.printed))

lemma Filed.step {event : BrowserSessionEvent η} (hkept : Kept host registry)
    (hstep : browserSessionStep host registry event = some finish) : Filed finish := by
  have h := hkept.filed
  cases event with
  | registeredManaged details handle =>
      cases hstep
      exact h.register details _ _
  | registeredDetached details =>
      cases hstep
      exact h.register details _ _
  | annotated sessionId details =>
      cases hstep
      exact h.updateRecord _ _
  | reused sessionId refresh nowIso =>
      cases hstep
      exact h.updateRecord _ _
  | closeCalled sessionId aborted closeProcessByPid nowIso =>
      cases hstep
      exact h.updateRecord _ _
  | linkedShutdown sessionId nowIso =>
      cases hstep
      exact h.updateRecord _ _
  | leaseStopped leaseId terminate isProcessAlive now =>
      cases hstep
      exact h.closeLinkedBrowserSessionsForLease isProcessAlive now leaseId terminate
  | snapshotRead sessionId isProcessAlive now =>
      cases hstep
      exact h.reconcileSnapshot isProcessAlive now sessionId
  | snapshotsListed isProcessAlive now =>
      cases hstep
      exact h.reconcilePersistedSessions isProcessAlive now
  | restarted isProcessAlive now =>
      cases hstep
      exact h.rehydrated isProcessAlive now hkept.printed

lemma Kept.step {event : BrowserSessionEvent η} (hstable : HrefStable host)
    (hkept : Kept host registry)
    (hstep : browserSessionStep host registry event = some finish) : Kept host finish := by
  have hfiled := Filed.step hkept hstep
  have hcases : ∀ next ∈ finish.sessions, New host next ∨ ∃ record ∈ registry.sessions,
      ∃ mayFail, Changes host mayFail record next := by
    intro next hnext
    have hfound := (sessionMap η).find_eq_some_of_mem hfiled.distinct hnext
    obtain ⟨-, hnew⟩ | ⟨record, hrecord, hchanges⟩ := browserSessionStep_cases hkept hstep hfound
    · exact .inl hnew
    · exact .inr ⟨record, mem_of_getRecord hrecord, _, hchanges⟩
  refine ⟨hfiled, fun next hnext => ?_, fun next hnext => ?_⟩
  · obtain ⟨details, url, controllerKind, handle, hurl, rfl⟩ | ⟨record, hrecord, _, hchanges⟩ :=
      hcases next hnext
    · exact Printed.of_normalizeSessionUrl hstable hurl
    · refine hchanges.keep (fun before after h hchange => ?_) (hkept.printed record hrecord)
      unfold Printed
      rw [hchange.keeps_url]
      exact h
  · obtain hnew | ⟨record, hrecord, _, hchanges⟩ := hcases next hnext
    · exact hnew.settled
    · exact hchanges.keep (fun _ _ h hchange => h.change hchange) (hkept.settled record hrecord)

lemma kept_newBrowserSessions (hasSnapshotPath : Bool) :
    Kept host (newBrowserSessions hasSnapshotPath : BrowserSessionRegistry η) where
  filed := ⟨List.nodup_nil, fun _ => rfl⟩
  printed _ h := absurd h List.not_mem_nil
  settled _ h := absurd h List.not_mem_nil

/-! ## Runs -/

lemma kept_of_run (hstable : HrefStable host) {events : List (BrowserSessionEvent η)}
    (hkept : Kept host registry)
    (hrun : run (browserSessionStep host) registry events = some finish) : Kept host finish :=
  invariant_of_run (fun _ _ _ h hstep => h.step hstable hstep) hkept hrun

lemma closed_of_run (hstable : HrefStable host) {events : List (BrowserSessionEvent η)}
    {sessionId : String} (hkept : Kept host registry)
    (hclosed : ∀ record, registry.getRecord sessionId = some record → record.status = .isClosed)
    (hleaves : ∀ event ∈ events, event.registers ≠ some sessionId)
    (hrun : run (browserSessionStep host) registry events = some finish) :
    ∀ record, finish.getRecord sessionId = some record → record.status = .isClosed := by
  induction events generalizing registry with
  | nil =>
      cases hrun
      exact hclosed
  | cons event events ih =>
      obtain ⟨middle, hmiddle, hrest⟩ := Option.bind_eq_some_iff.mp hrun
      refine ih (hkept.step hstable hmiddle) (fun next hnext => ?_)
        (fun later hlater => hleaves later (List.mem_cons_of_mem event hlater)) hrest
      obtain ⟨hregisters, -⟩ | ⟨record, hrecord, hchanges⟩ :=
        browserSessionStep_cases hkept hmiddle hnext
      · exact absurd hregisters (hleaves event List.mem_cons_self)
      · exact hchanges.keep (fun _ _ h hchange => hchange.keeps_closed h) (hclosed record hrecord)

lemma uncontrolled_of_run (hstable : HrefStable host) {events : List (BrowserSessionEvent η)}
    {sessionId : String} (hkept : Kept host registry)
    (hrecord : ∀ record, registry.getRecord sessionId = some record → Uncontrolled record)
    (hfails : Along (browserSessionStep host)
      (fun state event => ¬ FailsRefresh sessionId state event) registry events)
    (hrun : run (browserSessionStep host) registry events = some finish) :
    ∀ record, finish.getRecord sessionId = some record → Uncontrolled record := by
  have hkeep : ∀ (state : BrowserSessionRegistry η) event next, (Kept host state ∧
      ∀ record, state.getRecord sessionId = some record → Uncontrolled record) →
      ¬ FailsRefresh sessionId state event → browserSessionStep host state event = some next →
      Kept host next ∧
        ∀ record, next.getRecord sessionId = some record → Uncontrolled record := by
    intro state event next hstate hfail hstep
    refine ⟨hstate.1.step hstable hstep, fun record hnext => ?_⟩
    obtain ⟨-, details, url, controllerKind, handle, -, rfl⟩ | ⟨before, hbefore, hchanges⟩ :=
      browserSessionStep_cases hstate.1 hstep hnext
    · exact nofun
    · exact hchanges.keep (fun _ _ h hchange => h.change hfail hchange)
        (hstate.2 before hbefore)
  exact (invariant_of_along hkeep ⟨hkept, hrecord⟩ hfails hrun).2

/-! ## Closing and restarting -/

/-- The session is under exact control: by its handle, or by its pid and a terminator. -/
def Controlled (record : BrowserSessionRecord η) (closeProcessByPid : Option (ℤ → Bool)) : Prop :=
  record.handle.isSome ∨ record.controllerKind = .playwrightManaged ∧
    record.browserProcessPid.isSome ∧ closeProcessByPid.isSome

/-- The handle was closed, or the terminator reports the process of the session terminated. -/
def TornDown (record : BrowserSessionRecord η) : BrowserSessionRecord.Teardown η → Prop
  | .handleClosed handle => record.handle = some handle
  | .askedTerminator pid closedByPid => record.browserProcessPid = some pid ∧ closedByPid = true
  | .nothing => False

lemma tornDown_of_closeAfter {closeProcessByPid : Option (ℤ → Bool)} {nowIso : String}
    (hcontrolled : Controlled record closeProcessByPid)
    (h : record.closeAfter nowIso (record.teardown closeProcessByPid) = some next) :
    TornDown record (record.teardown closeProcessByPid) := by
  have hasked := (closeAfter_eq_some h).2
  unfold BrowserSessionRecord.teardown at hasked ⊢
  cases hhandle : record.handle with
  | some handle => exact hhandle
  | none =>
      rw [hhandle] at hasked
      obtain hsome | ⟨hkind, hpid, hclose⟩ := hcontrolled
      · simp [hhandle] at hsome
      · obtain ⟨pid, hpid⟩ := Option.isSome_iff_exists.mp hpid
        obtain ⟨close, rfl⟩ := Option.isSome_iff_exists.mp hclose
        simp only [hkind, hpid] at hasked ⊢
        refine ⟨hpid, ?_⟩
        cases hclosed : close pid with
        | false => exact absurd (by rw [hclosed]) (hasked pid)
        | true => rfl

/-- `closeSession` closes a session under exact control only after tearing it down. -/
lemma closeSession_tornDown {sessionId : String} {aborted : Bool}
    {closeProcessByPid : Option (ℤ → Bool)} {nowIso : String}
    (hrecord : registry.getRecord sessionId = some record) (hopen : record.status = .isOpen)
    (hcontrolled : Controlled record closeProcessByPid)
    (hnext : (registry.closeSession sessionId aborted closeProcessByPid nowIso).getRecord
      sessionId = some next)
    (hclosed : next.status = .isClosed) :
    TornDown record (registry.closeTeardown sessionId aborted closeProcessByPid) := by
  have hkeeps : KeepsSession fun record : BrowserSessionRecord η =>
      if record.status = .isClosed ∨ aborted = true then none
      else record.closeAfter nowIso (record.teardown closeProcessByPid) := by
    intro record next h
    dsimp only at h
    split_ifs at h
    rw [(closeAfter_eq_some h).1]
    rfl
  unfold closeSession at hnext
  rw [getRecord_updateRecord hkeeps, if_pos rfl, hrecord, Option.map_some] at hnext
  unfold closeTeardown
  rw [hrecord]
  dsimp only
  split_ifs at hnext ⊢ with hskip
  · cases hnext
    simp [hopen] at hclosed
  · cases hafter : record.closeAfter nowIso (record.teardown closeProcessByPid) with
    | none =>
        rw [hafter] at hnext
        cases hnext
        simp [hopen] at hclosed
    | some closed => exact tornDown_of_closeAfter hcontrolled hafter

lemma getRecord_rehydrated (hkept : Kept host registry) (hpath : registry.hasSnapshotPath = true)
    {sessionId : String} (hrecord : registry.getRecord sessionId = some record) :
    (registry.rehydrated host isProcessAlive now).getRecord sessionId =
      some ((withoutHandle record).reconciled host isProcessAlive now) := by
  rw [rehydrated_eq isProcessAlive now hkept.filed hkept.printed,
    getRecord_reconcilePersistedSessions, getRecord_hydratedRegistry hpath, hrecord]
  rfl

lemma status_reconciled_iff :
    (record.reconciled host isProcessAlive now).status ≠ record.status ↔
      record.ClosedByReconcile host isProcessAlive now := by
  obtain ⟨hclosed, h⟩ | ⟨hopen, hstays, h⟩ | ⟨hattended, h⟩ :=
    reconciled_cases host record isProcessAlive now
  · rw [h]
    refine iff_of_true ?_ hclosed
    simp [hclosed.1.1]
  · rw [h]
    exact iff_of_false (by simp) fun hclosed => hstays hclosed.2
  · rw [h]
    exact iff_of_false (by simp) fun hclosed => hattended hclosed.1

/-- A session that has no handle loses nothing in the file that the reconciliation looks at. -/
lemma closedByReconcile_withoutHandle (hsettled : Settled record) (hhandle : record.handle = none) :
    (withoutHandle record).ClosedByReconcile host isProcessAlive now ↔
      record.ClosedByReconcile host isProcessAlive now := by
  have hunattended : (withoutHandle record).Unattended ↔ record.Unattended :=
    and_congr_right fun _ => iff_of_true rfl hhandle
  unfold BrowserSessionRecord.ClosedByReconcile
  rw [hunattended]
  refine and_congr_right fun hopen => ?_
  have hpid : (withoutHandle record).browserProcessPid = record.browserProcessPid := rfl
  have hlinked : (withoutHandle record).linkedProcessPid = record.linkedProcessPid := rfl
  unfold BrowserSessionRecord.ShouldClose
  cases hbrowser : record.browserProcessPid with
  | some pid => simp [hpid, hbrowser]
  | none =>
      have hbefore : record.controlAvailable = false := hsettled.control hopen hbrowser
      have hafter : (withoutHandle record).controlAvailable = false := by
        simp [withoutHandle, BrowserSessionSnapshot.hydratedRecord,
          BrowserSessionSnapshot.pidControl, hbrowser]
      rw [hpid, hbrowser, hbefore, hafter]
      exact Iff.rfl

/-- What a run says of a session in its last registry. -/
structure ToldTruthfully (host : Host) (hasSnapshotPath : Bool)
    (events : List (BrowserSessionEvent η)) (registry : BrowserSessionRegistry η)
    (sessionId : String) (record : BrowserSessionRecord η) : Prop where
  handle : record.status = .isClosed → record.handle = none
  closedAt : record.status = .isClosed → record.closedAt.isSome = true
  control : record.status = .isClosed →
    Along (browserSessionStep host) (fun state event => ¬ FailsRefresh sessionId state event)
      (newBrowserSessions hasSnapshotPath) events → record.controlAvailable = false
  forGood : record.status = .isClosed → ∀ later finish last,
    (∀ event ∈ later, event.registers ≠ some sessionId) →
      run (browserSessionStep host) registry later = some finish →
      finish.getRecord sessionId = some last → last.status = .isClosed
  tornDown : record.status = .isOpen → ∀ aborted closeProcessByPid nowIso next,
    Controlled record closeProcessByPid →
      (registry.closeSession sessionId aborted closeProcessByPid nowIso).getRecord sessionId =
        some next →
      next.status = .isClosed →
        TornDown record (registry.closeTeardown sessionId aborted closeProcessByPid)
  restarted : hasSnapshotPath = true → ∀ isProcessAlive now, ∃ next,
    (registry.rehydrated host isProcessAlive now).getRecord sessionId = some next ∧
      (next.status ≠ record.status ↔
        (withoutHandle record).ClosedByReconcile host isProcessAlive now) ∧
      (record.handle = none → ¬ record.ClosedByReconcile host isProcessAlive now →
        next.status = record.status)

@[simp] lemma hasSnapshotPath_persistSessions (registry : BrowserSessionRegistry η) :
    registry.persistSessions.hasSnapshotPath = registry.hasSnapshotPath := by
  unfold BrowserSessionRegistry.persistSessions
  split <;> rfl

@[simp] lemma hasSnapshotPath_setRecord (registry : BrowserSessionRegistry η)
    (record : BrowserSessionRecord η) :
    (registry.setRecord record).hasSnapshotPath = registry.hasSnapshotPath := rfl

@[simp] lemma hasSnapshotPath_updateRecord (registry : BrowserSessionRegistry η)
    (sessionId : String) (update : BrowserSessionRecord η → Option (BrowserSessionRecord η)) :
    (registry.updateRecord sessionId update).hasSnapshotPath = registry.hasSnapshotPath := by
  unfold BrowserSessionRegistry.updateRecord
  split <;> simp

@[simp] lemma hasSnapshotPath_register (details : SessionDetails)
    (controllerKind : BrowserSessionControllerKind) (handle : Option η) :
    (registry.register host details controllerKind handle).hasSnapshotPath =
      registry.hasSnapshotPath := by
  unfold BrowserSessionRegistry.register
  split <;> simp

@[simp] lemma hasSnapshotPath_reconcilePersistedSessions :
    (registry.reconcilePersistedSessions host isProcessAlive now).hasSnapshotPath =
      registry.hasSnapshotPath := by
  unfold BrowserSessionRegistry.reconcilePersistedSessions
  split <;> simp

lemma hasSnapshotPath_closeLinkedBrowserSessionsForLease (leaseId : String)
    (terminate : ℤ → Bool) :
    (registry.closeLinkedBrowserSessionsForLease host leaseId terminate isProcessAlive
      now).hasSnapshotPath = registry.hasSnapshotPath := by
  have hone : ∀ (state : BrowserSessionRegistry η) (openSnapshot : BrowserSessionSnapshot),
      (closeLinkedSession terminate now.iso state openSnapshot).hasSnapshotPath =
        state.hasSnapshotPath := by
    intro state openSnapshot
    unfold closeLinkedSession markSessionClosedFromLinkedResourceShutdown closeSession
    split
    · simp
    · dsimp only
      split <;> simp
  refine List.foldlRecOn (motive := fun state : BrowserSessionRegistry η =>
    state.hasSnapshotPath = registry.hasSnapshotPath) _ _
      (hasSnapshotPath_reconcilePersistedSessions isProcessAlive now) ?_
  intro state hstate openSnapshot _
  rw [hone, hstate]

lemma hasSnapshotPath_step {event : BrowserSessionEvent η}
    (hstep : browserSessionStep host registry event = some finish) :
    finish.hasSnapshotPath = registry.hasSnapshotPath := by
  cases event with
  | registeredManaged | registeredDetached =>
      cases hstep
      exact hasSnapshotPath_register _ _ _
  | annotated | reused | closeCalled | linkedShutdown =>
      cases hstep
      exact hasSnapshotPath_updateRecord _ _ _
  | leaseStopped leaseId terminate isProcessAlive now =>
      cases hstep
      exact hasSnapshotPath_closeLinkedBrowserSessionsForLease isProcessAlive now leaseId terminate
  | snapshotRead sessionId isProcessAlive now =>
      cases hstep
      unfold BrowserSessionRegistry.reconcileSnapshot
      split
      · rfl
      · dsimp only
        split <;> simp
  | snapshotsListed isProcessAlive now =>
      cases hstep
      exact hasSnapshotPath_reconcilePersistedSessions isProcessAlive now
  | restarted isProcessAlive now =>
      cases hstep
      exact hasSnapshotPath_reconcilePersistedSessions isProcessAlive now

lemma hasSnapshotPath_of_run {events : List (BrowserSessionEvent η)}
    (hrun : run (browserSessionStep host) registry events = some finish) :
    finish.hasSnapshotPath = registry.hasSnapshotPath := by
  have hkeep : ∀ (state : BrowserSessionRegistry η) event next,
      state.hasSnapshotPath = registry.hasSnapshotPath →
      browserSessionStep host state event = some next →
      next.hasSnapshotPath = registry.hasSnapshotPath :=
    fun state event next hstate hstep => (hasSnapshotPath_step hstep).trans hstate
  exact invariant_of_run hkeep rfl hrun

/-- A closed session has no handle and a close time, and stays closed while its id is not
registered anew; it has no control unless its refresh failed. A session under exact control is
closed only when it is torn down. A restart changes the status of exactly those sessions that the
reconciliation closes without their handle. -/
theorem browser_sessions_told_truthfully (hstable : HrefStable host) (hasSnapshotPath : Bool)
    (events : List (BrowserSessionEvent η))
    (hrun : run (browserSessionStep host) (newBrowserSessions hasSnapshotPath) events =
      some registry)
    (sessionId : String) (hrecord : registry.getRecord sessionId = some record) :
    ToldTruthfully host hasSnapshotPath events registry sessionId record := by
  have hkept := kept_of_run hstable (kept_newBrowserSessions hasSnapshotPath) hrun
  have hsettled := hkept.settled record (mem_of_getRecord hrecord)
  refine
    { handle := hsettled.handle
      closedAt := hsettled.closedAt
      control := fun hclosed hfails => ?_
      forGood := fun hclosed later finish last hleaves hlater hlast => ?_
      tornDown := fun hopen aborted closeProcessByPid nowIso next hcontrolled hnext hclosed =>
        closeSession_tornDown hrecord hopen hcontrolled hnext hclosed
      restarted := fun hpath isProcessAlive now => ?_ }
  · refine uncontrolled_of_run hstable (kept_newBrowserSessions hasSnapshotPath)
      (fun other hother => ?_) hfails hrun record hrecord hclosed
    rw [getRecord_newBrowserSessions] at hother
    cases hother
  · refine closed_of_run hstable hkept (fun other hother => ?_) hleaves hlater last hlast
    rw [hrecord] at hother
    cases hother
    exact hclosed
  · have hpath' : registry.hasSnapshotPath = true := (hasSnapshotPath_of_run hrun).trans hpath
    refine ⟨_, getRecord_rehydrated isProcessAlive now hkept hpath' hrecord, ?_, ?_⟩
    · exact status_reconciled_iff isProcessAlive now
    · intro hhandle hstays
      by_contra hchanged
      refine hstays ((closedByReconcile_withoutHandle isProcessAlive now hsettled hhandle).mp ?_)
      exact (status_reconciled_iff isProcessAlive now).mp hchanged

/-! ## A preview page -/

def previewUrl : UrlParts where
  protocol := "http:"
  hostname := "localhost"
  port := "3000"
  pathname := "/"
  search := ""
  href := "http://localhost:3000/"

def previewHost : Host :=
  .ofTables [("2026-01-01T00:00:00.000Z", 1767225600000)] [("http://localhost:3000/", previewUrl)]

/-- A session without a pid, not linked to any process. -/
def previewDetails (sessionId : String) : SessionDetails where
  sessionId := sessionId
  url := "http://localhost:3000/"
  visibility := .visible
  openedAt := "2026-01-01T00:00:00.000Z"
  browserProcessPid := none
  ownership := ⟨none, none, none, none⟩

/-- One session loses its page, another was opened in the default browser, and a third is under
control of its handle. -/
def previewRun : List (BrowserSessionEvent ℕ) :=
  [.registeredManaged (previewDetails "browser_session:1") 1,
    .registeredDetached (previewDetails "browser_session:2"),
    .registeredManaged (previewDetails "browser_session:3") 3,
    .reused "browser_session:1" .failed "2026-01-01T00:01:00.000Z"]

/-- Ten minutes after the sessions were opened. -/
def tenMinutesLater : ClockTime where
  iso := "2026-01-01T00:10:00.000Z"
  ms := 1767226200000

lemma hrefStable_previewHost : HrefStable previewHost := by
  intro url parts h
  change List.lookup url [("http://localhost:3000/", previewUrl)] = some parts at h
  rw [List.lookup_cons] at h
  split at h
  · cases h
    exact ⟨previewUrl, by simp [previewHost, Host.ofTables, previewUrl], rfl⟩
  · cases h

def previewRegistry : BrowserSessionRegistry ℕ :=
  ((run (browserSessionStep previewHost) (newBrowserSessions true) previewRun).getD
    (newBrowserSessions true))

theorem browser_sessions_told_truthfully_preview :
    ∃ record, previewRegistry.getRecord "browser_session:3" = some record ∧
      ToldTruthfully previewHost true previewRun previewRegistry "browser_session:3" record := by
  obtain ⟨record, hrecord⟩ : ∃ record,
      previewRegistry.getRecord "browser_session:3" = some record :=
    Option.isSome_iff_exists.mp (by decide)
  have hrun : run (browserSessionStep previewHost) (newBrowserSessions true) previewRun =
      some previewRegistry := by decide
  exact ⟨record, hrecord, browser_sessions_told_truthfully hrefStable_previewHost true previewRun
    hrun "browser_session:3" hrecord⟩

/-- A failed refresh closes a session and leaves it control-available, the session in the default
browser is closed with nothing torn down, and a restart closes an open session although nothing
about the processes has changed. -/
theorem closed_sessions_not_told_truthfully :
    ∃ registry,
      run (browserSessionStep previewHost) (newBrowserSessions true) previewRun = some registry ∧
      ((registry.getRecord "browser_session:1").map fun record =>
        (record.status, record.controlAvailable)) = some (.isClosed, true) ∧
      ((registry.getRecord "browser_session:2").map (·.status)) = some .isOpen ∧
      ((registry.closeSession "browser_session:2" false (some fun _ => true)
        tenMinutesLater.iso).getRecord "browser_session:2").map (·.status) = some .isClosed ∧
      registry.closeTeardown "browser_session:2" false (some fun _ => true) = .nothing ∧
      ((registry.reconcilePersistedSessions previewHost (fun _ => true)
        tenMinutesLater).getRecord "browser_session:3").map (·.status) = some .isOpen ∧
      ((registry.rehydrated previewHost (fun _ => true) tenMinutesLater).getRecord
        "browser_session:3").map (·.status) = some .isClosed := by
  refine ⟨previewRegistry, ?_⟩
  decide

end AgentBigBrain.LiveRun

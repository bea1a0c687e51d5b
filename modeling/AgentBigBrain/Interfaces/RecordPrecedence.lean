import AgentBigBrain.Interfaces.JobMerging
import AgentBigBrain.Interfaces.RecordMerging
import AgentBigBrain.Lib.StaleMerge
import Mathlib.Data.Prod.Lex
import Mathlib.Order.WithBot

/-!
# Which record stays when an older one arrives

The levels of preference between two records of a job are one lexicographic order. Actions and
destinations stay where they are strictly later, browser sessions also where they lack nothing
that the older one has; a turn never does.
-/
namespace AgentBigBrain.Interfaces

open AgentBigBrain.Js AgentBigBrain.Core AgentBigBrain.Lib

lemma textLt_iff {s t : String} : textLt s t = true ↔ codeUnits s < codeUnits t := by
  simp [textLt, textLe]

lemma textLt_trans {s t u : String} (hst : textLt s t = true) (htu : textLt t u = true) :
    textLt s u = true :=
  textLt_iff.mpr ((textLt_iff.mp hst).trans (textLt_iff.mp htu))

/-! ## Jobs -/

abbrev JobRank :=
  Bool ×ₗ Bool ×ₗ Bool ×ₗ Bool ×ₗ WithBot (List ℕ) ×ₗ Bool ×ₗ List ℕ

/-- A trace comes after no trace, and a later one after an earlier one. -/
def traceRank : Option ConversationRecoveryTrace → WithBot (List ℕ)
  | none => ⊥
  | some trace => WithBot.some (codeUnits trace.updatedAt)

/-- What the levels of preference compare, in their order. -/
def ConversationJob.rank (job : ConversationJob) : JobRank :=
  toLex (job.isTerminal, toLex (decide (job.finalDeliveryOutcome ≠ .notAttempted),
    toLex (truthy job.resultSummary, toLex (truthy job.errorMessage,
      toLex (traceRank job.recoveryTrace, toLex (truthy job.pauseRequestedAt, codeUnits job.timestamp))))))

lemma preferWhere_getD (existing incoming : Bool) (rest : MergeSide) :
    (preferWhere existing incoming).getD rest = .existing ↔
      incoming < existing ∨ incoming = existing ∧ rest = .existing := by
  cases existing <;> cases incoming <;> simp [preferWhere]

lemma preferTrace_getD (existing incoming : Option ConversationRecoveryTrace)
    (rest : MergeSide) :
    (preferWhere existing.isSome incoming.isSome).getD
        ((preferNewerTrace existing incoming).getD rest) = .existing ↔
      traceRank incoming < traceRank existing ∨
        traceRank incoming = traceRank existing ∧ rest = .existing := by
  cases existing with
  | none => cases incoming <;> simp [preferWhere, preferNewerTrace, traceRank]
  | some held =>
      cases incoming with
      | none => simp [preferWhere, preferNewerTrace, traceRank]
      | some arriving =>
          simp only [preferWhere, preferNewerTrace, traceRank, Option.isSome_some]
          by_cases hsame : held.updatedAt = arriving.updatedAt
          · simp [hsame]
          · have hne : codeUnits arriving.updatedAt ≠ codeUnits held.updatedAt :=
              fun h => hsame (codeUnits_injective h).symm
            have hiff : WithBot.some (codeUnits arriving.updatedAt) <
                WithBot.some (codeUnits held.updatedAt) ↔
                  textLt arriving.updatedAt held.updatedAt = true :=
              WithBot.coe_lt_coe.trans textLt_iff.symm
            cases hlt : textLt arriving.updatedAt held.updatedAt <;>
              simp_all

theorem preferredSide_eq_existing {existing incoming : ConversationJob} :
    preferredSide existing incoming = .existing ↔ incoming.rank < existing.rank := by
  unfold preferredSide ConversationJob.rank
  simp only [Option.or_assoc, Option.getD_or, Prod.Lex.toLex_lt_toLex]
  rw [preferWhere_getD, preferWhere_getD, preferWhere_getD, preferWhere_getD, preferTrace_getD,
    preferWhere_getD]
  have hlast : (if textLt incoming.timestamp existing.timestamp = true then MergeSide.existing
      else .incoming) = .existing ↔ codeUnits incoming.timestamp < codeUnits existing.timestamp := by
    rw [← textLt_iff]
    split_ifs with h <;> simp [h]
  rw [hlast]

/-- The newer record ranks higher and does not lose a verified snapshot, or it is the older one,
perhaps with a verified snapshot that this lacks. -/
def JobOutranks (newer older : ConversationJob) : Prop :=
  older.rank < newer.rank ∧ (older.isVerified = true → newer.isVerified = true) ∨
    newer = older ∨
    older.isVerified = false ∧ newer.isVerified = true ∧
      older = { newer with principalSnapshot := older.principalSnapshot }

lemma rank_withSnapshot (job : ConversationJob)
    (snapshot : Option ConversationJobPrincipalSnapshot) :
    ({ job with principalSnapshot := snapshot } : ConversationJob).rank = job.rank := rfl

/-- A record with the snapshot of another is that other one exactly if they differ in nothing else. -/
lemma withSnapshot_eq_iff {newer older : ConversationJob} :
    ({ older with principalSnapshot := newer.principalSnapshot } : ConversationJob) = newer ↔
      older = { newer with principalSnapshot := older.principalSnapshot } := by
  constructor
  · intro h
    rw [← h]
  · intro h
    rw [h]

lemma ne_of_isVerified {newer older : ConversationJob} (hnewer : newer.isVerified = true)
    (holder : older.isVerified = false) : newer ≠ older := by
  rintro rfl
  rw [hnewer] at holder
  cases holder

theorem supersedes_job_iff {newer older : ConversationJob} :
    jobsById.Supersedes newer older ↔ JobOutranks newer older := by
  have hchoose : jobsById.Supersedes newer older ↔
      choosePreferredConversationJob newer older = newer := Iff.rfl
  have hverified : ∀ job : ConversationJob,
      Interfaces.isVerified job.principalSnapshot = job.isVerified := fun _ => rfl
  rw [hchoose]
  unfold choosePreferredConversationJob selectPreferredConversationJobPrincipalSnapshot JobOutranks
  simp only [hverified]
  cases hside : preferredSide newer older with
  | existing =>
      have hrank : older.rank < newer.rank := preferredSide_eq_existing.mp hside
      cases hnewer : newer.isVerified with
      | true => simp [hrank]
      | false =>
          cases holder : older.isVerified with
          | false => simp [hrank]
          | true =>
              have hne : newer ≠ older := (ne_of_isVerified holder hnewer).symm
              have hsnapshot : older.principalSnapshot ≠ newer.principalSnapshot := by
                intro hsame
                have hlost : older.isVerified = newer.isVerified := congrArg isVerified hsame
                rw [holder, hnewer] at hlost
                cases hlost
              have hresult : ({ newer with principalSnapshot := older.principalSnapshot } :
                  ConversationJob) ≠ newer := by
                intro h
                have hsame := congrArg (fun job => job.principalSnapshot) h
                exact hsnapshot hsame
              simp [hne, hresult]
  | incoming =>
      have hrank : ¬ older.rank < newer.rank := by
        rw [← preferredSide_eq_existing, hside]
        exact nofun
      cases hnewer : newer.isVerified with
      | false => cases holder : older.isVerified <;> simp [hrank, eq_comm]
      | true =>
          cases holder : older.isVerified with
          | true => simp [hrank, eq_comm]
          | false =>
              have hne : newer ≠ older := ne_of_isVerified hnewer holder
              simp [hrank, hne, withSnapshot_eq_iff]

lemma transitive_jobsById : jobsById.TransitiveOnKeys := by
  intro newest newer older _ _ hnew hold
  rw [supersedes_job_iff] at hnew hold ⊢
  obtain ⟨hrank, hverified⟩ | rfl | ⟨hplain, hverified, hsame⟩ := hnew
  · obtain ⟨holdRank, holdVerified⟩ | rfl | ⟨holdPlain, -, holdSame⟩ := hold
    · exact .inl ⟨holdRank.trans hrank, hverified ∘ holdVerified⟩
    · exact .inl ⟨hrank, hverified⟩
    · refine .inl ⟨?_, fun h => ?_⟩
      · rw [holdSame, rank_withSnapshot]
        exact hrank
      · rw [holdPlain] at h
        cases h
  · exact hold
  · obtain ⟨holdRank, -⟩ | rfl | ⟨-, holdVerified, -⟩ := hold
    · rw [hsame, rank_withSnapshot] at holdRank
      exact .inl ⟨holdRank, fun _ => hverified⟩
    · exact .inr (.inr ⟨hplain, hverified, hsame⟩)
    · rw [hplain] at holdVerified
      cases holdVerified

/-! ## Actions and destinations -/

lemma supersedes_newest_iff {α κ : Type*} {key : α → κ} {time : α → String} {newer older : α} :
    (newestByKey key time).Supersedes newer older ↔
      textLt (time older) (time newer) = true ∨ newer = older := by
  have hchoose : (newestByKey key time).Supersedes newer older ↔
      (if textLe (time newer) (time older) = true then older else newer) = newer := Iff.rfl
  rw [hchoose]
  cases hle : textLe (time newer) (time older) <;> simp [textLt, hle, eq_comm]

lemma transitive_newestByKey {α κ : Type*} (key : α → κ) (time : α → String) :
    (newestByKey key time).TransitiveOnKeys := by
  intro newest newer older _ _ hnew hold
  rw [supersedes_newest_iff] at hnew hold ⊢
  obtain hnew | rfl := hnew
  · obtain hold | rfl := hold
    · exact .inl (textLt_trans hold hnew)
    · exact .inl hnew
  · exact hold

/-! ## Browser sessions -/

/-- The newer record lacks no process or workspace field that the older one has. -/
structure KeepsLinks (newer older : ConversationBrowserSessionRecord) : Prop where
  browserProcessPid : newer.browserProcessPid = none → older.browserProcessPid = none
  workspaceRootPath : newer.workspaceRootPath = none → older.workspaceRootPath = none
  linkedProcessLeaseId : newer.linkedProcessLeaseId = none → older.linkedProcessLeaseId = none
  linkedProcessCwd : newer.linkedProcessCwd = none → older.linkedProcessCwd = none
  linkedProcessPid : newer.linkedProcessPid = none → older.linkedProcessPid = none

lemma KeepsLinks.trans {newest newer older : ConversationBrowserSessionRecord}
    (hnew : KeepsLinks newest newer) (hold : KeepsLinks newer older) :
    KeepsLinks newest older where
  browserProcessPid := hold.browserProcessPid ∘ hnew.browserProcessPid
  workspaceRootPath := hold.workspaceRootPath ∘ hnew.workspaceRootPath
  linkedProcessLeaseId := hold.linkedProcessLeaseId ∘ hnew.linkedProcessLeaseId
  linkedProcessCwd := hold.linkedProcessCwd ∘ hnew.linkedProcessCwd
  linkedProcessPid := hold.linkedProcessPid ∘ hnew.linkedProcessPid

lemma or_eq_left_iff {α : Type*} {newer older : Option α} :
    newer.or older = newer ↔ (newer = none → older = none) := by
  cases newer <;> simp

lemma backfill_eq_self_iff {newer older : ConversationBrowserSessionRecord} :
    backfillBrowserSession newer older = newer ↔ KeepsLinks newer older := by
  constructor
  · intro h
    have hfield : ∀ {α : Type} (field : ConversationBrowserSessionRecord → Option α),
        field (backfillBrowserSession newer older) = field newer := fun field => congrArg field h
    exact
      { browserProcessPid := or_eq_left_iff.mp (hfield (·.browserProcessPid))
        workspaceRootPath := or_eq_left_iff.mp (hfield (·.workspaceRootPath))
        linkedProcessLeaseId := or_eq_left_iff.mp (hfield (·.linkedProcessLeaseId))
        linkedProcessCwd := or_eq_left_iff.mp (hfield (·.linkedProcessCwd))
        linkedProcessPid := or_eq_left_iff.mp (hfield (·.linkedProcessPid)) }
  · intro h
    unfold backfillBrowserSession
    rw [or_eq_left_iff.mpr h.browserProcessPid, or_eq_left_iff.mpr h.workspaceRootPath,
      or_eq_left_iff.mpr h.linkedProcessLeaseId, or_eq_left_iff.mpr h.linkedProcessCwd,
      or_eq_left_iff.mpr h.linkedProcessPid]

lemma keepsLinks_backfill (preferred fallback : ConversationBrowserSessionRecord) :
    KeepsLinks (backfillBrowserSession preferred fallback) preferred := by
  constructor <;> simp +contextual [backfillBrowserSession]

lemma openedAt_of_filled {newer older : ConversationBrowserSessionRecord}
    (h : newer = backfillBrowserSession older newer) : newer.openedAt = older.openedAt := by
  rw [h]
  rfl

/-- The newer record was opened later and lacks nothing, or it is the older one with some of the
fields filled in that this lacks. -/
def BrowserSessionOutranks (newer older : ConversationBrowserSessionRecord) : Prop :=
  textLt older.openedAt newer.openedAt = true ∧ KeepsLinks newer older ∨
    newer = backfillBrowserSession older newer

theorem supersedes_browserSession_iff {newer older : ConversationBrowserSessionRecord} :
    browserSessionsById.Supersedes newer older ↔ BrowserSessionOutranks newer older := by
  have hchoose : browserSessionsById.Supersedes newer older ↔
      (if textLe newer.openedAt older.openedAt then backfillBrowserSession older newer
        else backfillBrowserSession newer older) = newer := Iff.rfl
  rw [hchoose]
  unfold BrowserSessionOutranks
  cases hle : textLe newer.openedAt older.openedAt with
  | true => simp [textLt, hle, eq_comm]
  | false =>
      have hne : newer ≠ backfillBrowserSession older newer := by
        intro h
        rw [openedAt_of_filled h, textLe_refl] at hle
        cases hle
      simp [textLt, hle, backfill_eq_self_iff, hne]

/-- Filled in twice is filled in once. -/
lemma backfill_trans {newest newer older : ConversationBrowserSessionRecord}
    (hnew : newest = backfillBrowserSession newer newest)
    (hold : newer = backfillBrowserSession older newer) :
    newest = backfillBrowserSession older newest := by
  have hor : ∀ {α : Type} (first second : Option α), first.or (first.or second) = first.or second :=
    fun first second => by cases first <;> rfl
  rw [hnew, hold]
  simp [backfillBrowserSession, Option.or_assoc, hor]

lemma transitive_browserSessionsById : browserSessionsById.TransitiveOnKeys := by
  intro newest newer older _ _ hnew hold
  rw [supersedes_browserSession_iff] at hnew hold ⊢
  obtain ⟨hlater, hlinks⟩ | hfilled := hnew
  · obtain ⟨holdLater, holdLinks⟩ | holdFilled := hold
    · exact .inl ⟨textLt_trans holdLater hlater, hlinks.trans holdLinks⟩
    · have htime := openedAt_of_filled holdFilled
      have holdLinks : KeepsLinks newer older := holdFilled ▸ keepsLinks_backfill older newer
      exact .inl ⟨htime ▸ hlater, hlinks.trans holdLinks⟩
  · obtain ⟨holdLater, holdLinks⟩ | holdFilled := hold
    · have htime := openedAt_of_filled hfilled
      have hlinks : KeepsLinks newest newer := hfilled ▸ keepsLinks_backfill newer newest
      exact .inl ⟨htime ▸ holdLater, hlinks.trans holdLinks⟩
    · exact .inr (backfill_trans hfilled holdFilled)

/-! ## Turns -/

lemma supersedes_turn_iff {newer older : ConversationTurn} :
    turnsByKey.Supersedes newer older ↔ older = newer := Iff.rfl

lemma transitive_turnsByKey : turnsByKey.TransitiveOnKeys := by
  intro newest newer older _ _ hnew hold
  rw [supersedes_turn_iff] at hnew hold ⊢
  exact hold.trans hnew

end AgentBigBrain.Interfaces

import AgentBigBrain.Interfaces.LedgerUpdates
import AgentBigBrain.Interfaces.RecordPrecedence
import AgentBigBrain.Interfaces.SessionMerging

/-!
# Saving an older copy again

A party that holds a session of before some updates saves it with a newer time. The merge leaves
the updated ledgers as they are exactly if every record that was replaced since is outranked by
the one in its place. Along a run this is asked of one update at a time.
-/
namespace AgentBigBrain.Interfaces

open AgentBigBrain.Js AgentBigBrain.Core AgentBigBrain.Lib

/-- The sessions hold the same records, perhaps in another order. -/
structure SameLedgers (session other : ConversationSession) : Prop where
  queuedJobs : session.queuedJobs.Perm other.queuedJobs
  recentJobs : session.recentJobs.Perm other.recentJobs
  recentActions : session.recentActions.Perm other.recentActions
  browserSessions : session.browserSessions.Perm other.browserSessions
  pathDestinations : session.pathDestinations.Perm other.pathDestinations
  conversationTurns : session.conversationTurns.Perm other.conversationTurns

variable (platform : Platform) (sha : Sha256)

/-- Saving the older session with any other time leaves the ledgers of the newer one. -/
def HarmlessResave (newer older : ConversationSession) : Prop :=
  ∀ updatedAt, SameLedgers
    (mergedSession platform sha newer { older with updatedAt := updatedAt }) newer

/-- No job is listed twice, and the queued ones have not ended. -/
structure TidyJobs (session : ConversationSession) : Prop where
  queuedJobs : jobsById.Distinct session.queuedJobs
  recentJobs : jobsById.Distinct session.recentJobs
  apart : ∀ queued ∈ session.queuedJobs, ∀ recent ∈ session.recentJobs, queued.id ≠ recent.id
  waiting : ∀ queued ∈ session.queuedJobs, queued.isTerminal = false

/-- No ledger has two records of one merge key. -/
structure TidyLedgers (session : ConversationSession) : Prop extends TidyJobs session where
  recentActions : actionsById.Distinct session.recentActions
  browserSessions : browserSessionsById.Distinct session.browserSessions
  pathDestinations : (destinationsByLabel platform).Distinct session.pathDestinations
  conversationTurns : turnsByKey.Distinct session.conversationTurns

/-- What became of the jobs: one that left the queue is among the recent ones, from where none
disappears or goes back. -/
structure JobsAdvance (newer older : ConversationSession) : Prop where
  queued : newer.queuedJobs ⊆ older.queuedJobs
  started : ∀ job ∈ older.queuedJobs, job ∈ newer.queuedJobs ∨
    ∃ recent ∈ newer.recentJobs, recent.id = job.id ∧ recent.status ≠ .queued ∧
      (job.isVerified = true → recent.isVerified = true)
  kept : ∀ job ∈ older.recentJobs, ∃ recent ∈ newer.recentJobs, recent.id = job.id ∧
    (job.status ≠ .queued → recent.status ≠ .queued) ∧
      (job.isVerified = true → recent.isVerified = true)

/-- Every older record is superseded by one of its key. -/
structure AbsorbsLedgers (newer older : ConversationSession) : Prop where
  recentJobs : jobsById.Absorbs newer.recentJobs older.recentJobs
  recentActions : actionsById.Absorbs newer.recentActions older.recentActions
  browserSessions : browserSessionsById.Absorbs newer.browserSessions older.browserSessions
  pathDestinations :
    (destinationsByLabel platform).Absorbs newer.pathDestinations older.pathDestinations
  conversationTurns : turnsByKey.Absorbs newer.conversationTurns older.conversationTurns

variable {platform sha} {newest newer older : ConversationSession}

lemma JobsAdvance.refl (session : ConversationSession) : JobsAdvance session session where
  queued := List.Subset.refl _
  started _ hjob := .inl hjob
  kept job hjob := ⟨job, hjob, rfl, id, id⟩

lemma JobsAdvance.trans (hnew : JobsAdvance newest newer) (hold : JobsAdvance newer older) :
    JobsAdvance newest older where
  queued := List.Subset.trans hnew.queued hold.queued
  started job hjob := by
    obtain hqueued | ⟨recent, hrecent, hid, hstatus, hverified⟩ := hold.started job hjob
    · exact hnew.started job hqueued
    · obtain ⟨later, hlater, hlaterId, hlaterStatus, hlaterVerified⟩ := hnew.kept recent hrecent
      exact .inr ⟨later, hlater, hlaterId.trans hid, hlaterStatus hstatus,
        hlaterVerified ∘ hverified⟩
  kept job hjob := by
    obtain ⟨recent, hrecent, hid, hstatus, hverified⟩ := hold.kept job hjob
    obtain ⟨later, hlater, hlaterId, hlaterStatus, hlaterVerified⟩ := hnew.kept recent hrecent
    exact ⟨later, hlater, hlaterId.trans hid, hlaterStatus ∘ hstatus, hlaterVerified ∘ hverified⟩

lemma AbsorbsLedgers.refl (session : ConversationSession) :
    AbsorbsLedgers platform session session where
  recentJobs := jobsById.absorbs_self choosePreferredConversationJob_self _
  recentActions := actionsById.absorbs_self (newestByKey_choose_self _ _) _
  browserSessions := browserSessionsById.absorbs_self
    (fun record => supersedes_browserSession_iff.mpr
      (.inr (backfillBrowserSession_self record).symm)) _
  pathDestinations := (destinationsByLabel platform).absorbs_self (newestByKey_choose_self _ _) _
  conversationTurns := turnsByKey.absorbs_self (fun _ => rfl) _

lemma AbsorbsLedgers.trans (hnew : AbsorbsLedgers platform newest newer)
    (hold : AbsorbsLedgers platform newer older) : AbsorbsLedgers platform newest older where
  recentJobs := hnew.recentJobs.trans transitive_jobsById hold.recentJobs
  recentActions := hnew.recentActions.trans (transitive_newestByKey _ _) hold.recentActions
  browserSessions := hnew.browserSessions.trans transitive_browserSessionsById hold.browserSessions
  pathDestinations :=
    hnew.pathDestinations.trans (transitive_newestByKey _ _) hold.pathDestinations
  conversationTurns :=
    hnew.conversationTurns.trans transitive_turnsByKey hold.conversationTurns

/-! ## Jobs under a merge -/

lemma mem_snapshotSources {job : ConversationJob} :
    job ∈ snapshotSources newer older ↔
      job ∈ newer.queuedJobs ∨ job ∈ newer.recentJobs ∨ job ∈ older.queuedJobs ∨
        job ∈ older.recentJobs := by
  simp [snapshotSources]

/-- A verified record of a recent job, of whichever session, tells that its newest record is
verified. -/
lemma isVerified_of_source (hnewer : TidyJobs newer) (hadvance : JobsAdvance newer older)
    {job source : ConversationJob} (hjob : job ∈ newer.recentJobs)
    (hsource : source ∈ snapshotSources newer older) (hid : source.id = job.id)
    (hverified : source.isVerified = true) : job.isVerified = true := by
  have hsame : ∀ recent ∈ newer.recentJobs, recent.id = job.id → recent = job :=
    fun recent hrecent hid => jobsById.eq_of_distinct hnewer.recentJobs hrecent hjob hid
  obtain hmem | hmem | hmem | hmem := mem_snapshotSources.mp hsource
  · exact absurd hid (hnewer.apart source hmem job hjob)
  · rw [← hsame source hmem hid]
    exact hverified
  · obtain hqueued | ⟨recent, hrecent, hrecentId, -, hkept⟩ := hadvance.started source hmem
    · exact absurd hid (hnewer.apart source hqueued job hjob)
    · rw [← hsame recent hrecent (hrecentId.trans hid)]
      exact hkept hverified
  · obtain ⟨recent, hrecent, hrecentId, -, hkept⟩ := hadvance.kept source hmem
    rw [← hsame recent hrecent (hrecentId.trans hid)]
    exact hkept hverified

/-- A record of the newer recent jobs keeps its snapshot. -/
lemma applyVerified_recent (hnewer : TidyJobs newer) (hadvance : JobsAdvance newer older)
    {job : ConversationJob} (hjob : job ∈ newer.recentJobs) :
    applyVerifiedJobSnapshot (snapshotSources newer older) job = job := by
  refine applyVerifiedJobSnapshot_eq_self ?_
  by_cases hverified : job.isVerified = true
  · exact .inl hverified
  · refine .inr fun source hsource hid => ?_
    by_contra hsourceVerified
    exact hverified (isVerified_of_source hnewer hadvance hjob hsource hid
      (by simpa using hsourceVerified))

/-- The merged record of a recent job is the newest one only if that outranks the older one. -/
lemma supersedes_of_merged (hnewer : TidyJobs newer) (hadvance : JobsAdvance newer older)
    {job held : ConversationJob} (hjob : job ∈ newer.recentJobs) (hid : job.id = held.id)
    (hmerged : applyVerifiedJobSnapshot (snapshotSources newer older)
      (choosePreferredConversationJob job held) = job) :
    jobsById.Supersedes job held := by
  have hchosen : (choosePreferredConversationJob job held).id = job.id :=
    (jobsById.key_choose job held hid).trans hid.symm
  have hkept : applyVerifiedJobSnapshot (snapshotSources newer older)
      (choosePreferredConversationJob job held) = choosePreferredConversationJob job held := by
    refine applyVerifiedJobSnapshot_eq_self ?_
    by_cases hverified : (choosePreferredConversationJob job held).isVerified = true
    · exact .inl hverified
    · refine .inr fun source hsource hsourceId => ?_
      by_contra hsourceVerified
      have hjobVerified := isVerified_of_source hnewer hadvance hjob hsource
        (hsourceId.trans hchosen) (by simpa using hsourceVerified)
      exact hverified (isVerified_choosePreferred (.inl hjobVerified))
  exact hkept.symm.trans hmerged

theorem mergedRecentJobs_perm_iff (hnewer : TidyJobs newer) (holder : TidyJobs older)
    (hadvance : JobsAdvance newer older) :
    (mergedRecentJobs platform newer older).Perm newer.recentJobs ↔
      jobsById.Absorbs newer.recentJobs older.recentJobs := by
  have hvalues := mergeConversationJobs_perm platform newer.recentJobs older.recentJobs
  constructor
  · intro hperm held hheld
    obtain ⟨job, hjob, hid, -⟩ := hadvance.kept held hheld
    refine ⟨job, hjob, hid, supersedes_of_merged hnewer hadvance hjob hid ?_⟩
    have hfound : jobsById.find held.id (jobsById.values newer.recentJobs older.recentJobs) =
        some (choosePreferredConversationJob job held) := by
      have hold : jobsById.find held.id older.recentJobs = some held :=
        (jobsById.find_eq_some_iff holder.recentJobs).mpr ⟨hheld, rfl⟩
      have hnew : jobsById.find held.id newer.recentJobs = some job :=
        (jobsById.find_eq_some_iff hnewer.recentJobs).mpr ⟨hjob, hid⟩
      rw [jobsById.find_values hnewer.recentJobs holder.recentJobs, hold, hnew]
      rfl
    obtain ⟨hmem, hkey⟩ := jobsById.mem_of_find hfound
    have hmerged : applyVerifiedJobSnapshot (snapshotSources newer older)
        (choosePreferredConversationJob job held) ∈ newer.recentJobs :=
      hperm.mem_iff.mp (List.mem_map.mpr ⟨_, hvalues.mem_iff.mpr hmem, rfl⟩)
    refine jobsById.eq_of_distinct hnewer.recentJobs hmerged hjob ?_
    simpa using hkey.trans hid.symm
  · intro habsorbs
    have hperm := hvalues.trans
      ((jobsById.values_perm_iff holder.recentJobs).mpr ⟨hnewer.recentJobs, habsorbs⟩)
    have hsame : newer.recentJobs.map (applyVerifiedJobSnapshot (snapshotSources newer older)) =
        newer.recentJobs :=
      (List.map_congr_left fun job hjob => applyVerified_recent hnewer hadvance hjob).trans
        (List.map_id _)
    exact (hperm.map _).trans (List.Perm.of_eq hsame)

/-- A merge of the queues has no other jobs than the older queue. -/
lemma mem_values_queuedJobs (hnewer : TidyJobs newer) (holder : TidyJobs older)
    (hadvance : JobsAdvance newer older) {job : ConversationJob} :
    job ∈ jobsById.values newer.queuedJobs older.queuedJobs ↔ job ∈ older.queuedJobs := by
  constructor
  · refine jobsById.forall_values (P := (· ∈ older.queuedJobs)) hadvance.queued (fun _ h => h)
      (fun first second hkey hfirst hsecond => ?_) job
    rw [jobsById.eq_of_distinct holder.queuedJobs hfirst hsecond hkey, jobsById_choose,
      choosePreferredConversationJob_self]
    exact hsecond
  · intro hjob
    have hfound : jobsById.find job.id (jobsById.values newer.queuedJobs older.queuedJobs) =
        some job := by
      have hold : jobsById.find job.id older.queuedJobs = some job :=
        (jobsById.find_eq_some_iff holder.queuedJobs).mpr ⟨hjob, rfl⟩
      rw [jobsById.find_values hnewer.queuedJobs holder.queuedJobs, hold, Option.elim_some]
      cases hheld : jobsById.find job.id newer.queuedJobs with
      | none => rfl
      | some held =>
          obtain ⟨hmem, hkey⟩ := jobsById.mem_of_find hheld
          rw [jobsById.eq_of_distinct holder.queuedJobs (hadvance.queued hmem) hjob hkey]
          exact congrArg some (choosePreferredConversationJob_self job)
    exact (jobsById.mem_of_find hfound).1

/-- A job that still waits keeps its snapshot. -/
lemma applyVerified_queued (hnewer : TidyJobs newer) (holder : TidyJobs older)
    (hadvance : JobsAdvance newer older) {job : ConversationJob}
    (hjob : job ∈ newer.queuedJobs) :
    applyVerifiedJobSnapshot (snapshotSources newer older) job = job := by
  refine applyVerifiedJobSnapshot_eq_self ?_
  by_cases hverified : job.isVerified = true
  · exact .inl hverified
  · refine .inr fun source hsource hid => ?_
    have hplain : job.isVerified = false := by simpa using hverified
    obtain hmem | hmem | hmem | hmem := mem_snapshotSources.mp hsource
    · rw [jobsById.eq_of_distinct hnewer.queuedJobs hmem hjob hid]
      exact hplain
    · exact absurd hid.symm (hnewer.apart job hjob source hmem)
    · rw [jobsById.eq_of_distinct holder.queuedJobs hmem (hadvance.queued hjob) hid]
      exact hplain
    · exact absurd hid.symm (holder.apart job (hadvance.queued hjob) source hmem)

theorem mergedQueuedJobs_perm (hnewer : TidyJobs newer) (holder : TidyJobs older)
    (hadvance : JobsAdvance newer older)
    (hrecent : (mergedRecentJobs platform newer older).Perm newer.recentJobs) :
    (mergedQueuedJobs platform newer older).Perm newer.queuedJobs := by
  have hdistinct : jobsById.Distinct (mergedQueuedJobs platform newer older) :=
    distinct_mergedQueuedJobs
  refine (List.perm_ext_iff_of_nodup (List.Nodup.of_map _ hdistinct)
    (List.Nodup.of_map _ hnewer.queuedJobs)).mpr fun job => ?_
  have hcandidate : ∀ candidate, candidate ∈ mergeConversationJobs platform newer.queuedJobs
      older.queuedJobs ↔ candidate ∈ older.queuedJobs := fun candidate =>
    (mem_mergeConversationJobs platform).trans (mem_values_queuedJobs hnewer holder hadvance)
  constructor
  · intro hjob
    obtain ⟨hmapped, hstays⟩ := List.mem_filter.mp hjob
    obtain ⟨candidate, hmem, rfl⟩ := List.mem_map.mp hmapped
    obtain hqueued | ⟨recent, hmoved, hid, hstatus, -⟩ :=
      hadvance.started candidate ((hcandidate candidate).mp hmem)
    · rw [applyVerified_queued hnewer holder hadvance hqueued]
      exact hqueued
    · -- The job is among the recent ones and no longer queued there.
      simp only [staysQueued, applyVerifiedJobSnapshot_id, Bool.and_eq_true, Bool.not_eq_true',
        List.any_eq_false, decide_eq_true_eq] at hstays
      exact absurd ⟨hstatus, hid⟩ (hstays.1 recent (hrecent.mem_iff.mpr hmoved))
  · intro hjob
    have hmem := (hcandidate job).mpr (hadvance.queued hjob)
    refine List.mem_filter.mpr ⟨List.mem_map.mpr
      ⟨job, hmem, applyVerified_queued hnewer holder hadvance hjob⟩, ?_⟩
    have hnone : (mergedRecentJobs platform newer older).any (fun recent =>
        decide (recent.status ≠ .queued) && decide (recent.id = job.id)) = false := by
      refine List.any_eq_false.mpr fun recent hmoved => ?_
      have hne := hnewer.apart job hjob recent (hrecent.mem_iff.mp hmoved)
      simp [Ne.symm hne]
    simp only [staysQueued, hnone, hnewer.waiting job hjob]
    rfl

lemma mergeSorted_perm_iff {α κ : Type*} [DecidableEq κ] {m : KeyedMerge α κ}
    {order : Comparator α} (existing incoming other : List α) :
    (mergeSorted m order existing incoming).Perm other ↔
      (m.values existing incoming).Perm other :=
  ⟨(order.sort_perm _).symm.trans, (order.sort_perm _).trans⟩

/-- Saving the older session again is harmless exactly if the newer ledgers absorb the older
ones. -/
theorem harmlessResave_iff (hnewer : TidyJobs newer) (holder : TidyLedgers platform older)
    (hadvance : JobsAdvance newer older) :
    HarmlessResave platform sha newer older ↔
      TidyLedgers platform newer ∧ AbsorbsLedgers platform newer older := by
  have hactions : (mergeRecentActions platform newer.recentActions older.recentActions).Perm
      newer.recentActions ↔ _ :=
    (mergeSorted_perm_iff _ _ _).trans (actionsById.values_perm_iff holder.recentActions)
  have hbrowsers : (mergeBrowserSessions platform newer.browserSessions
      older.browserSessions).Perm newer.browserSessions ↔ _ :=
    (mergeSorted_perm_iff _ _ _).trans (browserSessionsById.values_perm_iff holder.browserSessions)
  have hdestinations : (mergePathDestinations platform newer.pathDestinations
      older.pathDestinations).Perm newer.pathDestinations ↔ _ :=
    (mergeSorted_perm_iff _ _ _).trans
      ((destinationsByLabel platform).values_perm_iff holder.pathDestinations)
  have hturns : (mergeConversationTurns platform newer.conversationTurns
      older.conversationTurns).Perm newer.conversationTurns ↔ _ :=
    (mergeSorted_perm_iff _ _ _).trans (turnsByKey.values_perm_iff holder.conversationTurns)
  have hrecent :=
    @mergedRecentJobs_perm_iff platform _ _ hnewer holder.toTidyJobs hadvance
  constructor
  · intro h
    have hsame := h ""
    obtain ⟨hactionsTidy, hactionsAbsorb⟩ := hactions.mp hsame.recentActions
    obtain ⟨hbrowsersTidy, hbrowsersAbsorb⟩ := hbrowsers.mp hsame.browserSessions
    obtain ⟨hdestinationsTidy, hdestinationsAbsorb⟩ := hdestinations.mp hsame.pathDestinations
    obtain ⟨hturnsTidy, hturnsAbsorb⟩ := hturns.mp hsame.conversationTurns
    exact ⟨⟨hnewer, hactionsTidy, hbrowsersTidy, hdestinationsTidy, hturnsTidy⟩,
      ⟨hrecent.mp hsame.recentJobs, hactionsAbsorb, hbrowsersAbsorb, hdestinationsAbsorb,
        hturnsAbsorb⟩⟩
  · rintro ⟨htidy, habsorbs⟩ updatedAt
    have hjobs := hrecent.mpr habsorbs.recentJobs
    have hqueue := mergedQueuedJobs_perm hnewer holder.toTidyJobs hadvance hjobs
    exact
      { queuedJobs := hqueue
        recentJobs := hjobs
        recentActions := hactions.mpr ⟨htidy.recentActions, habsorbs.recentActions⟩
        browserSessions := hbrowsers.mpr ⟨htidy.browserSessions, habsorbs.browserSessions⟩
        pathDestinations := hdestinations.mpr ⟨htidy.pathDestinations, habsorbs.pathDestinations⟩
        conversationTurns := hturns.mpr ⟨htidy.conversationTurns, habsorbs.conversationTurns⟩ }

/-! ## Updates -/

variable {caps : LedgerCaps} {session next : ConversationSession} {update : LedgerUpdate}

variable (platform caps) in
/-- What an update writes outranks what it replaces. -/
def LedgerUpdate.Ascends (session : ConversationSession) (update : LedgerUpdate) : Prop :=
  (∀ job ∈ update.writtenJob platform caps session, ∀ held ∈ session.recentJobs,
    held.id = job.id → JobOutranks job held) ∧
  match update with
  | .recentAction action =>
      ∀ held ∈ session.recentActions, held.id = action.id →
        textLt held.at action.at = true ∨ action = held
  | .browserSession record =>
      ∀ held ∈ session.browserSessions, held.id = record.id →
        BrowserSessionOutranks (mergedBrowserSession session record) held
  | .pathDestination destination =>
      ∀ held ∈ session.pathDestinations,
        (held.id = destination.id ↔
          platform.toLowerCase held.label = platform.toLowerCase destination.label) ∧
        (held.id = destination.id →
          textLt held.updatedAt destination.updatedAt = true ∨ destination = held)
  | .assistantTurnText previousText nextText =>
      ∀ previous ∈ previousText.filter (· ≠ ""), ∀ turn ∈ latestAssistantTurn session,
        turn.text = previous → nextText = previous
  | _ => True

lemma distinct_replaceById {α : Type*} {m : KeyedMerge α String} {record : α} {records : List α}
    (h : m.Distinct records) : m.Distinct (replaceById m.key record records) := by
  refine List.nodup_cons.mpr ⟨fun hmem => ?_, List.Nodup.sublist
    (List.Sublist.map _ List.filter_sublist) h⟩
  obtain ⟨other, hother, hkey⟩ := List.mem_map.mp hmem
  exact absurd hkey (by simpa using (List.mem_filter.mp hother).2)

/-- A job that is written among the recent ones comes from them or from the head of the queue. -/
lemma TidyJobs.of_written (h : TidyJobs session) {job held : ConversationJob}
    (hheld : held ∈ session.recentJobs) (hjob : Continues job held)
    (hrecent : next.recentJobs = replaceById ConversationJob.id job session.recentJobs)
    (hqueue : next.queuedJobs = session.queuedJobs) :
    TidyJobs next ∧ JobsAdvance next session := by
  refine ⟨⟨?_, ?_, ?_, ?_⟩, ⟨?_, ?_, ?_⟩⟩
  · rw [hqueue]
    exact h.queuedJobs
  · rw [hrecent]
    exact distinct_replaceById (m := jobsById) h.recentJobs
  · rw [hqueue, hrecent]
    intro queued hqueued recent hmem
    obtain rfl | ⟨hmem, -⟩ := mem_replaceById.mp hmem
    · rw [hjob.id]
      exact h.apart queued hqueued held hheld
    · exact h.apart queued hqueued recent hmem
  · rw [hqueue]
    exact h.waiting
  · rw [hqueue]
    exact List.Subset.refl _
  · rw [hqueue]
    exact fun queued hqueued => .inl hqueued
  · intro recent hmem
    rw [hrecent]
    by_cases hid : recent.id = job.id
    · have hsame : recent = held :=
        jobsById.eq_of_distinct h.recentJobs hmem hheld (hid.trans hjob.id)
      rw [hsame]
      refine ⟨job, mem_replaceById.mpr (.inl rfl), hjob.id, hjob.status, fun hverified => ?_⟩
      rw [ConversationJob.isVerified, hjob.principalSnapshot]
      exact hverified
    · exact ⟨recent, mem_replaceById.mpr (.inr ⟨hmem, hid⟩), rfl, id, id⟩

lemma TidyJobs.of_start (h : TidyJobs session) {queued : ConversationJob}
    {readings : StartReadings} (hqueue : session.queuedJobs = queued :: next.queuedJobs)
    (hrecent : next.recentJobs =
      replaceById ConversationJob.id (startedJob queued readings) session.recentJobs) :
    TidyJobs next ∧ JobsAdvance next session := by
  have hdistinct := h.queuedJobs
  rw [hqueue] at hdistinct
  have hnodup := List.nodup_cons.mp
    (show ((queued :: next.queuedJobs).map jobsById.key).Nodup from hdistinct)
  have hrest : ∀ job ∈ next.queuedJobs, job ∈ session.queuedJobs := fun job hjob =>
    hqueue ▸ List.mem_cons_of_mem queued hjob
  have hhead : queued ∈ session.queuedJobs := hqueue ▸ List.mem_cons_self
  refine ⟨⟨hnodup.2, ?_, ?_, fun job hjob => h.waiting job (hrest job hjob)⟩, ⟨hrest, ?_, ?_⟩⟩
  · rw [hrecent]
    exact distinct_replaceById (m := jobsById) h.recentJobs
  · rw [hrecent]
    intro job hjob recent hmem
    obtain rfl | ⟨hmem, -⟩ := mem_replaceById.mp hmem
    · exact fun hid => hnodup.1 (List.mem_map.mpr ⟨job, hjob, hid⟩)
    · exact h.apart job (hrest job hjob) recent hmem
  · intro job hjob
    rw [hqueue] at hjob
    obtain rfl | hjob := List.mem_cons.mp hjob
    · refine .inr ⟨startedJob job readings, ?_, rfl, nofun, id⟩
      rw [hrecent]
      exact mem_replaceById.mpr (.inl rfl)
    · exact .inl hjob
  · intro recent hmem
    refine ⟨recent, ?_, rfl, id, id⟩
    rw [hrecent]
    exact mem_replaceById.mpr (.inr ⟨hmem, (h.apart queued hhead recent hmem).symm⟩)

lemma TidyJobs.of_step (h : TidyJobs session)
    (hstep : ledgerStep platform caps session update = some next) :
    TidyJobs next ∧ JobsAdvance next session := by
  by_cases hkind : update.IsJobUpdate
  · obtain ⟨job, hwritten⟩ := exists_writtenJob hkind hstep
    obtain ⟨hrecent, -, hqueue⟩ := recentJobs_of_step hwritten hstep
    by_cases hstart : ∃ readings, update = .jobStarted readings
    · obtain ⟨readings, rfl⟩ := hstart
      obtain ⟨queued, hhead, hstarted⟩ := queue_of_start hstep
      rw [hwritten] at hstarted
      cases hstarted
      exact h.of_start hhead hrecent
    · have hother : ∀ readings, update ≠ .jobStarted readings :=
        fun readings hupdate => hstart ⟨readings, hupdate⟩
      obtain ⟨held, hheld, hjob⟩ := continues_writtenJob hother hwritten
      exact h.of_written hheld hjob hrecent (hqueue hother)
  · obtain ⟨hqueue, hrecent⟩ := jobs_of_step hkind hstep
    refine ⟨⟨?_, ?_, ?_, ?_⟩, ⟨?_, ?_, ?_⟩⟩ <;> simp only [hqueue, hrecent]
    · exact h.queuedJobs
    · exact h.recentJobs
    · exact h.apart
    · exact h.waiting
    · exact List.Subset.refl _
    · exact (JobsAdvance.refl session).started
    · exact (JobsAdvance.refl session).kept

/-! ## One update -/

/-- An update about a job is absorbed if its record outranks the one it replaces. -/
lemma absorbs_of_job (htidy : TidyLedgers platform session) (hnext : TidyJobs next)
    {job : ConversationJob} (hothers : KeepsOtherLedgers session next)
    (hrecent : next.recentJobs = replaceById ConversationJob.id job session.recentJobs) :
    TidyLedgers platform next ∧ AbsorbsLedgers platform next session ↔
      ∀ held ∈ session.recentJobs, held.id = job.id → JobOutranks job held := by
  have hwrites : jobsById.Writes job session.recentJobs next.recentJobs := by
    intro other
    rw [hrecent]
    exact mem_replaceById
  have hiff := KeyedMerge.absorbs_iff_of_writes choosePreferredConversationJob_self hwrites
  constructor
  · rintro ⟨-, habsorbs⟩ held hheld hid
    exact supersedes_job_iff.mp (hiff.mp habsorbs.recentJobs held hheld hid)
  · intro h
    have hself := @AbsorbsLedgers.refl platform session
    refine ⟨⟨hnext, ?_, ?_, ?_, ?_⟩, ⟨hiff.mpr fun held hheld hid =>
      supersedes_job_iff.mpr (h held hheld hid), ?_, ?_, ?_, ?_⟩⟩
    · exact hothers.recentActions ▸ htidy.recentActions
    · exact hothers.browserSessions ▸ htidy.browserSessions
    · exact hothers.pathDestinations ▸ htidy.pathDestinations
    · exact hothers.conversationTurns ▸ htidy.conversationTurns
    · exact hothers.recentActions ▸ hself.recentActions
    · exact hothers.browserSessions ▸ hself.browserSessions
    · exact hothers.pathDestinations ▸ hself.pathDestinations
    · exact hothers.conversationTurns ▸ hself.conversationTurns

lemma sorted_of_fits {α : Type*} (order : Comparator α) {id : α → String} {record : α}
    {records : List α} {max : ℕ} (hfits : (replaceById id record records).length ≤ max) :
    ((order.sort (replaceById id record records)).take max).Perm
      (replaceById id record records) := by
  rw [List.take_of_length_le (by rw [order.length_sort]; exact hfits)]
  exact order.sort_perm _

lemma distinct_of_perm {α κ : Type*} {m : KeyedMerge α κ} {xs ys : List α} (h : xs.Perm ys)
    (hys : m.Distinct ys) : m.Distinct xs :=
  (h.map m.key).nodup_iff.mpr hys

lemma absorbs_of_action (htidy : TidyLedgers platform session)
    {action : ConversationRecentActionRecord} {actions : List ConversationRecentActionRecord}
    (hperm : actions.Perm (replaceById ConversationRecentActionRecord.id action
      session.recentActions)) :
    TidyLedgers platform { session with recentActions := actions } ∧
        AbsorbsLedgers platform { session with recentActions := actions } session ↔
      ∀ held ∈ session.recentActions, held.id = action.id →
        textLt held.at action.at = true ∨ action = held := by
  have hwrites : actionsById.Writes action session.recentActions actions := fun other =>
    hperm.mem_iff.trans mem_replaceById
  have hiff := KeyedMerge.absorbs_iff_of_writes (newestByKey_choose_self _ _) hwrites
  constructor
  · rintro ⟨-, habsorbs⟩ held hheld hid
    exact supersedes_newest_iff.mp (hiff.mp habsorbs.recentActions held hheld hid)
  · intro h
    have hself := @AbsorbsLedgers.refl platform session
    have habsorbs := hiff.mpr fun held hheld hid => supersedes_newest_iff.mpr (h held hheld hid)
    have hdistinct : actionsById.Distinct actions :=
      distinct_of_perm hperm (distinct_replaceById (m := actionsById) htidy.recentActions)
    exact ⟨{ htidy with recentActions := hdistinct }, { hself with recentActions := habsorbs }⟩

lemma absorbs_of_browserSession (htidy : TidyLedgers platform session)
    {record : ConversationBrowserSessionRecord} {sessions : List ConversationBrowserSessionRecord}
    (hperm : sessions.Perm (replaceById ConversationBrowserSessionRecord.id record
      session.browserSessions)) :
    TidyLedgers platform { session with browserSessions := sessions } ∧
        AbsorbsLedgers platform { session with browserSessions := sessions } session ↔
      ∀ held ∈ session.browserSessions, held.id = record.id →
        BrowserSessionOutranks record held := by
  have hwrites : browserSessionsById.Writes record session.browserSessions sessions := fun other =>
    hperm.mem_iff.trans mem_replaceById
  have hiff := KeyedMerge.absorbs_iff_of_writes (fun session =>
    supersedes_browserSession_iff.mpr (.inr (backfillBrowserSession_self session).symm)) hwrites
  constructor
  · rintro ⟨-, habsorbs⟩ held hheld hid
    exact supersedes_browserSession_iff.mp (hiff.mp habsorbs.browserSessions held hheld hid)
  · intro h
    have hself := @AbsorbsLedgers.refl platform session
    have habsorbs := hiff.mpr fun held hheld hid =>
      supersedes_browserSession_iff.mpr (h held hheld hid)
    have hdistinct : browserSessionsById.Distinct sessions :=
      distinct_of_perm hperm (distinct_replaceById (m := browserSessionsById) htidy.browserSessions)
    exact ⟨{ htidy with browserSessions := hdistinct }, { hself with browserSessions := habsorbs }⟩

/-- Destinations are written under their ids and merged under their labels. -/
lemma absorbs_of_pathDestination (htidy : TidyLedgers platform session)
    {destination : ConversationPathDestinationRecord}
    {destinations : List ConversationPathDestinationRecord}
    (hperm : destinations.Perm (replaceById ConversationPathDestinationRecord.id destination
      session.pathDestinations)) :
    TidyLedgers platform { session with pathDestinations := destinations } ∧
        AbsorbsLedgers platform { session with pathDestinations := destinations } session ↔
      ∀ held ∈ session.pathDestinations,
        (held.id = destination.id ↔
          platform.toLowerCase held.label = platform.toLowerCase destination.label) ∧
        (held.id = destination.id →
          textLt held.updatedAt destination.updatedAt = true ∨ destination = held) := by
  let m := destinationsByLabel platform
  have hmem : ∀ other, other ∈ destinations ↔
      other = destination ∨ other ∈ session.pathDestinations ∧ other.id ≠ destination.id :=
    fun other => hperm.mem_iff.trans mem_replaceById
  constructor
  · rintro ⟨hnext, habsorbs⟩ held hheld
    have hreplaced : held.id = destination.id →
        m.key destination = m.key held ∧ m.Supersedes destination held := by
      intro hid
      obtain ⟨other, hother, hkey, hsupersedes⟩ := habsorbs.pathDestinations held hheld
      obtain rfl | ⟨hother, hne⟩ := (hmem other).mp hother
      · exact ⟨hkey, hsupersedes⟩
      · have hsame := m.eq_of_distinct htidy.pathDestinations hother hheld hkey
        exact absurd (hsame ▸ hid) hne
    refine ⟨⟨fun hid => (hreplaced hid).1.symm, fun hlabel => ?_⟩,
      fun hid => supersedes_newest_iff.mp (hreplaced hid).2⟩
    by_contra hne
    have hsame : held = destination := m.eq_of_distinct hnext.pathDestinations
      ((hmem held).mpr (.inr ⟨hheld, hne⟩)) ((hmem destination).mpr (.inl rfl)) hlabel
    exact hne (congrArg ConversationPathDestinationRecord.id hsame)
  · intro h
    have hself := @AbsorbsLedgers.refl platform session
    have hdistinct : m.Distinct destinations := by
      refine distinct_of_perm hperm (List.nodup_cons.mpr ⟨fun hkey => ?_, ?_⟩)
      · obtain ⟨other, hother, hlabel⟩ := List.mem_map.mp hkey
        obtain ⟨hother, hne⟩ := List.mem_filter.mp hother
        exact (of_decide_eq_true hne) ((h other hother).1.mpr hlabel)
      · exact List.Nodup.sublist (List.Sublist.map _ List.filter_sublist) htidy.pathDestinations
    have habsorbs : m.Absorbs destinations session.pathDestinations := by
      intro held hheld
      by_cases hid : held.id = destination.id
      · exact ⟨destination, (hmem destination).mpr (.inl rfl), ((h held hheld).1.mp hid).symm,
          supersedes_newest_iff.mpr ((h held hheld).2 hid)⟩
      · exact ⟨held, (hmem held).mpr (.inr ⟨hheld, hid⟩), rfl, newestByKey_choose_self _ _ held⟩
    exact ⟨{ htidy with pathDestinations := hdistinct }, { hself with pathDestinations := habsorbs }⟩

/-- A turn with another text does not supersede the one it was. -/
lemma absorbs_of_assistantTurnText (htidy : TidyLedgers platform session)
    (previousText : Option String) (nextText : String) :
    TidyLedgers platform (replaceLatestAssistantTurnText session previousText nextText) ∧
        AbsorbsLedgers platform (replaceLatestAssistantTurnText session previousText nextText)
          session ↔
      ∀ previous ∈ previousText.filter (· ≠ ""), ∀ turn ∈ latestAssistantTurn session,
        turn.text = previous → nextText = previous := by
  have hunchanged : TidyLedgers platform session ∧ AbsorbsLedgers platform session session :=
    ⟨htidy, AbsorbsLedgers.refl session⟩
  unfold replaceLatestAssistantTurnText
  cases hprevious : previousText.filter (· ≠ "") with
  | none => exact iff_of_true hunchanged (fun _ h => nomatch h)
  | some previous =>
      dsimp only
      set replace := fun turn : ConversationTurn =>
        if turn.text = previous then { turn with text := nextText } else turn with hreplace
      cases hlatest : latestAssistantTurn session with
      | none =>
          rw [updateFirst_of_find_none hlatest, List.reverse_reverse]
          exact iff_of_true hunchanged (fun _ _ _ h => nomatch h)
      | some turn =>
          obtain ⟨before, after, hturns, hupdated⟩ := updateFirst_of_find hlatest replace
          have hsession : session.conversationTurns = after.reverse ++ turn :: before.reverse := by
            rw [← List.reverse_reverse session.conversationTurns, hturns]
            simp
          have hreplaced : (before ++ replace turn :: after).reverse =
              after.reverse ++ replace turn :: before.reverse := by simp
          rw [hupdated, hreplaced]
          by_cases hsame : turn.text = previous → nextText = previous
          · have hkept : replace turn = turn := by
              simp only [hreplace]
              split_ifs with htext
              · rw [hsame htext, ← htext]
              · rfl
            rw [hkept, ← hsession]
            refine iff_of_true hunchanged fun other hother latest hlatest => ?_
            cases hother
            cases hlatest
            exact hsame
          · refine iff_of_false (fun h => ?_) fun h => hsame (h previous rfl turn rfl)
            obtain ⟨htext, hnext⟩ := Classical.not_imp.mp hsame
            have hnodup : session.conversationTurns.Nodup :=
              List.Nodup.of_map _ htidy.conversationTurns
            have hne : turn ≠ replace turn := by
              intro heq
              have hturnText : turn.text = (replace turn).text := congrArg (·.text) heq
              simp only [hreplace, if_pos htext] at hturnText
              exact hnext (hturnText.symm.trans htext)
            have hturn : turn ∈ session.conversationTurns := by simp [hsession]
            obtain ⟨other, hother, -, hsupersedes⟩ := h.2.conversationTurns turn hturn
            have hback : turn ∈ after.reverse ++ replace turn :: before.reverse :=
              supersedes_turn_iff.mp hsupersedes ▸ hother
            rw [hsession] at hnodup
            have htwice : turn ∈ after.reverse ++ before.reverse := by simpa [hne] using hback
            have honce := List.nodup_cons.mp (List.nodup_middle.mp hnodup)
            exact honce.1 htwice

theorem ascends_iff (htidy : TidyLedgers platform session)
    (hstep : ledgerStep platform caps session update = some next) :
    TidyLedgers platform next ∧ AbsorbsLedgers platform next session ↔
      update.Ascends platform caps session := by
  have hnext := (htidy.toTidyJobs.of_step hstep).1
  have hjobs : update.IsJobUpdate → (TidyLedgers platform next ∧
      AbsorbsLedgers platform next session ↔
        ∀ job ∈ update.writtenJob platform caps session, ∀ held ∈ session.recentJobs,
          held.id = job.id → JobOutranks job held) := by
    intro hkind
    obtain ⟨job, hwritten⟩ := exists_writtenJob hkind hstep
    obtain ⟨hrecent, hothers, -⟩ := recentJobs_of_step hwritten hstep
    rw [absorbs_of_job htidy hnext hothers hrecent, hwritten]
    simp
  have hnone : (∀ job ∈ (none : Option ConversationJob), ∀ held ∈ session.recentJobs,
      held.id = job.id → JobOutranks job held) ↔ True := by simp
  unfold LedgerUpdate.Ascends
  cases update with
  | recentAction action =>
      unfold ledgerStep at hstep
      split_ifs at hstep with hfits
      cases hstep
      exact (absorbs_of_action htidy (sorted_of_fits _ hfits.2)).trans
        (and_iff_right (hnone.mpr trivial)).symm
  | browserSession record =>
      unfold ledgerStep at hstep
      split_ifs at hstep with hfits
      cases hstep
      have hsame : (replaceById ConversationBrowserSessionRecord.id
          (mergedBrowserSession session record) session.browserSessions).length ≤
            caps.maxBrowserSessions := hfits.2
      exact (absorbs_of_browserSession htidy (sorted_of_fits _ hsame)).trans
        (and_iff_right (hnone.mpr trivial)).symm
  | pathDestination destination =>
      unfold ledgerStep at hstep
      split_ifs at hstep with hfits
      cases hstep
      exact (absorbs_of_pathDestination htidy (sorted_of_fits _ hfits.2)).trans
        (and_iff_right (hnone.mpr trivial)).symm
  | assistantTurnText previousText nextText =>
      unfold ledgerStep at hstep
      split_ifs at hstep
      cases hstep
      exact (absorbs_of_assistantTurnText htidy previousText nextText).trans
        (and_iff_right (hnone.mpr trivial)).symm
  | _ => exact (hjobs trivial).trans (and_iff_left trivial).symm

/-! ## Kinds of job updates -/

lemma rank_setConversationAckLifecycleState (job : ConversationJob)
    (nextState : ConversationAckLifecycleState) (code : String) :
    (setConversationAckLifecycleState job nextState code).rank = job.rank := by
  unfold setConversationAckLifecycleState
  split_ifs <;> rfl

lemma rank_acknowledgedJob (job : ConversationJob) (delivery : ConversationDeliveryResult)
    (nowIso : String) : (acknowledgedJob job delivery nowIso).rank = job.rank := by
  have hset := rank_setConversationAckLifecycleState
  unfold acknowledgedJob
  dsimp only
  split_ifs
  · exact hset _ _ _
  · split
    · exact hset _ _ _
    · split
      · exact hset _ _ _
      · exact (hset _ .cancelled _).trans (hset _ .sent _)

/-- A record of the same rank and origin outranks only itself. -/
lemma jobOutranks_iff_of_rank {job held : ConversationJob} (hrank : job.rank = held.rank)
    (hsnapshot : job.principalSnapshot = held.principalSnapshot) :
    JobOutranks job held ↔ job = held := by
  have hverified : job.isVerified = held.isVerified := by
    unfold ConversationJob.isVerified
    rw [hsnapshot]
  unfold JobOutranks
  rw [hrank, hverified]
  constructor
  · rintro (⟨hlt, -⟩ | heq | ⟨hplain, hverified, -⟩)
    · exact absurd hlt (lt_irrefl _)
    · exact heq
    · rw [hplain] at hverified
      cases hverified
  · exact fun heq => .inr (.inl heq)

/-- An acknowledgement never outranks the record it changes. -/
theorem acknowledgedJob_outranks_iff (job : ConversationJob)
    (delivery : ConversationDeliveryResult) (nowIso : String) :
    JobOutranks (acknowledgedJob job delivery nowIso) job ↔
      acknowledgedJob job delivery nowIso = job :=
  jobOutranks_iff_of_rank (rank_acknowledgedJob job delivery nowIso)
    (continues_acknowledgedJob job delivery nowIso).principalSnapshot

lemma rank_lt_of_isTerminal {job held : ConversationJob} (hheld : held.isTerminal = false)
    (hjob : job.isTerminal = true) : held.rank < job.rank := by
  unfold ConversationJob.rank
  rw [Prod.Lex.toLex_lt_toLex, hheld, hjob]
  exact .inl Bool.false_lt_true

/-- The end of a job that has not ended outranks it. -/
theorem settledJob_outranks {held : ConversationJob} (hheld : held.isTerminal = false)
    (taken : ConversationJob) (ending : ExecutionEnd) (completedAt : String)
    (texts : OutcomeTexts) :
    JobOutranks (settledJob held (executedJob taken ending completedAt) texts) held := by
  have hsnapshot := (continues_settledJob held taken ending completedAt texts).principalSnapshot
  refine .inl ⟨rank_lt_of_isTerminal hheld ?_, fun hverified => ?_⟩
  · unfold ConversationJob.isTerminal
    rw [settledJob_status]
    cases ending <;> rfl
  · unfold ConversationJob.isVerified at hverified ⊢
    rw [hsnapshot]
    exact hverified

lemma isTerminal_setConversationAckLifecycleState (job : ConversationJob)
    (nextState : ConversationAckLifecycleState) (code : String) :
    (setConversationAckLifecycleState job nextState code).isTerminal = job.isTerminal := by
  unfold ConversationJob.isTerminal
  rw [setConversationAckLifecycleState_status]

lemma finalDeliveryOutcome_setConversationAckLifecycleState (job : ConversationJob)
    (nextState : ConversationAckLifecycleState) (code : String) :
    (setConversationAckLifecycleState job nextState code).finalDeliveryOutcome =
      job.finalDeliveryOutcome := by
  unfold setConversationAckLifecycleState
  split_ifs <;> rfl

lemma sentJob_attempted (job : ConversationJob) (delivery : FinalDelivery)
    (editAttempted : Bool) :
    (sentJob job delivery editAttempted).finalDeliveryOutcome ≠ .notAttempted ∧
      (job.isTerminal = true → (sentJob job delivery editAttempted).isTerminal = true) := by
  have houtcome := finalDeliveryOutcome_setConversationAckLifecycleState
  have hterminal := isTerminal_setConversationAckLifecycleState
  unfold sentJob
  dsimp only
  by_cases hok : delivery.send.ok = true
  · rw [if_pos hok, houtcome, hterminal]
    exact ⟨nofun, id⟩
  · rw [if_neg hok]
    constructor
    · refine fun h => ?_
      have hset := (houtcome _ .cancelled _).symm.trans h
      dsimp only at hset
      split_ifs at hset
    · intro _
      refine (hterminal _ .cancelled _).trans ?_
      unfold ConversationJob.isTerminal
      dsimp only
      split_ifs <;> rfl

/-- A delivery is an attempt, and leaves no job that has ended running. -/
lemma deliveredJob_attempted (job : ConversationJob) (delivery : FinalDelivery) :
    (deliveredJob job delivery).finalDeliveryOutcome ≠ .notAttempted ∧
      (job.isTerminal = true → (deliveredJob job delivery).isTerminal = true) := by
  unfold deliveredJob
  dsimp only
  split_ifs
  · refine ⟨nofun, fun h => ?_⟩
    exact (isTerminal_setConversationAckLifecycleState (attemptedEdit job delivery) .replaced
      "ACK_REPLACE_STATE_TRANSITION_BLOCKED").trans h
  · exact sentJob_attempted
      { attemptedEdit job delivery with
        ackLastErrorCode := some (delivery.edit.errorCode.getD "ACK_EDIT_FAILED")
        finalDeliveryLastErrorCode := some (delivery.edit.errorCode.getD "ACK_EDIT_FAILED") }
      delivery true
  · exact sentJob_attempted job delivery false

theorem deliveredJob_outranks {job : ConversationJob}
    (hopen : job.finalDeliveryOutcome = .notAttempted) (delivery : FinalDelivery) :
    JobOutranks (deliveredJob job delivery) job := by
  obtain ⟨hattempted, hterminal⟩ := deliveredJob_attempted job delivery
  have hsnapshot := (continues_deliveredJob job delivery).principalSnapshot
  refine .inl ⟨?_, fun hverified => ?_⟩
  · cases hjob : job.isTerminal with
    | false =>
        cases hdelivered : (deliveredJob job delivery).isTerminal with
        | true => exact rank_lt_of_isTerminal hjob hdelivered
        | false =>
            unfold ConversationJob.rank
            simp [Prod.Lex.toLex_lt_toLex, hjob, hdelivered, hopen, hattempted]
    | true =>
        unfold ConversationJob.rank
        simp [Prod.Lex.toLex_lt_toLex, hjob, hterminal hjob, hopen, hattempted]
  · unfold ConversationJob.isVerified at hverified ⊢
    rw [hsnapshot]
    exact hverified

/-! ## Runs -/

variable (platform caps) in
/-- The update cannot happen, or what it writes outranks what it replaces. -/
def AscendsWherePossible (session : ConversationSession) (update : LedgerUpdate) : Prop :=
  ∀ next, ledgerStep platform caps session update = some next →
    update.Ascends platform caps session

/-- After ascending updates the ledgers absorb those from before. -/
lemma absorbs_of_run {start finish : ConversationSession} {updates : List LedgerUpdate}
    (hstart : TidyLedgers platform start)
    (halong : Along (ledgerStep platform caps) (AscendsWherePossible platform caps) start updates)
    (hrun : run (ledgerStep platform caps) start updates = some finish) :
    TidyLedgers platform finish ∧ AbsorbsLedgers platform finish start ∧
      JobsAdvance finish start := by
  have hstep : ∀ session update next, (TidyLedgers platform session ∧
      AbsorbsLedgers platform session start ∧ JobsAdvance session start) →
      AscendsWherePossible platform caps session update →
      ledgerStep platform caps session update = some next →
        TidyLedgers platform next ∧ AbsorbsLedgers platform next start ∧ JobsAdvance next start := by
    rintro session update next ⟨htidy, habsorbs, hadvance⟩ hascends hstep
    obtain ⟨hnext, hnewer⟩ := (ascends_iff htidy hstep).mpr (hascends next hstep)
    exact ⟨hnext, hnewer.trans habsorbs, (htidy.toTidyJobs.of_step hstep).2.trans hadvance⟩
  exact invariant_of_along hstep ⟨hstart, AbsorbsLedgers.refl start, JobsAdvance.refl start⟩ halong
    hrun

/-! A busy session and updates of it. -/

def resaveCaps : LedgerCaps := ⟨20, 20, 20, 20, 20⟩

def runningSampleJob : ConversationJob :=
  { sampleJob with
    status := .running
    startedAt := some "2026-01-01T00:00:00.000Z"
    ackEligibleAt := some "2026-01-01T00:00:00.000Z" }

def openedSampleBrowser : ConversationBrowserSessionRecord where
  id := "browser-1"
  label := "preview"
  url := "http://127.0.0.1:3000"
  status := .opened
  openedAt := "2026-01-01T00:00:00.000Z"
  closedAt := none
  sourceJobId := some "job-1"
  visibility := .visible
  controllerKind := .playwrightManaged
  controlAvailable := true
  browserProcessPid := some 41
  workspaceRootPath := none
  linkedProcessLeaseId := none
  linkedProcessCwd := none
  linkedProcessPid := some 40
  resourceOwner := none

def sampleAssistantTurn : ConversationTurn where
  id := none
  role := .assistant
  text := "Blocked."
  «at» := "2026-01-01T00:00:00.000Z"
  metadata := none

/-- A session with a running job, an open browser and an answer. -/
def busySession : ConversationSession :=
  { sampleSession with
    runningJobId := some "job-1"
    recentJobs := [runningSampleJob]
    browserSessions := [openedSampleBrowser]
    conversationTurns := [sampleAssistantTurn] }

def sampleUpdates : List LedgerUpdate :=
  [.ackTimer ⟨"job-1", 0⟩ "2026-01-01T00:01:00.000Z" true
      { ok := true, messageId := some "message-1", errorCode := none, errorDetail := none },
    .browserSession { openedSampleBrowser with
      status := .closed
      closedAt := some "2026-01-01T00:01:00.000Z"
      browserProcessPid := none
      linkedProcessPid := none },
    .assistantTurnText (some "Blocked.") "Retrying."]

lemma tidy_busySession : TidyLedgers samplePlatform busySession := by
  refine ⟨⟨?_, ?_, ?_, ?_⟩, ?_, ?_, ?_, ?_⟩ <;> decide

/-- What a merge leaves is tidy, where no recent job is marked as queued. -/
theorem tidyLedgers_mergedSession (existing incoming : ConversationSession)
    (hrecent : ∀ job ∈ mergedRecentJobs platform existing incoming, job.status ≠ .queued) :
    TidyLedgers platform (mergedSession platform sha existing incoming) where
  queuedJobs := distinct_mergedQueuedJobs
  recentJobs := distinct_mergedRecentJobs
  apart queued hqueued recent hmem hid := by
    have hstays := (List.mem_filter.mp hqueued).2
    simp only [staysQueued, Bool.and_eq_true, Bool.not_eq_true', List.any_eq_false,
      decide_eq_true_eq] at hstays
    exact hstays.1 recent hmem ⟨hrecent recent hmem, hid.symm⟩
  waiting queued hqueued := by
    have hstays := (List.mem_filter.mp hqueued).2
    simp only [staysQueued, Bool.and_eq_true, Bool.not_eq_true'] at hstays
    exact hstays.2
  recentActions := (listInOrder_mergeSorted _ _).distinct
  browserSessions := (listInOrder_mergeSorted _ _).distinct
  pathDestinations := (listInOrder_mergeSorted _ _).distinct
  conversationTurns := (listInOrder_mergeSorted _ _).distinct

/-- In a run from tidy ledgers every copy of before can be saved again without harm exactly if
every update on the way writes what outranks the record it replaces. -/
theorem stale_saves_harmless {start : ConversationSession} (hstart : TidyLedgers platform start)
    (updates : List LedgerUpdate) :
    (∀ before between after older newer, updates = before ++ between ++ after →
      run (ledgerStep platform caps) start before = some older →
      run (ledgerStep platform caps) older between = some newer →
        HarmlessResave platform sha newer older) ↔
      Along (ledgerStep platform caps) (AscendsWherePossible platform caps) start updates := by
  constructor
  · intro h
    induction updates generalizing start with
    | nil => exact trivial
    | cons update updates ih =>
        have hascends : ∀ next, ledgerStep platform caps start update = some next →
            TidyLedgers platform next ∧ AbsorbsLedgers platform next start := by
          intro next hstep
          obtain ⟨hjobs, hadvance⟩ := hstart.toTidyJobs.of_step hstep
          have hone : run (ledgerStep platform caps) start [update] = some next := by
            simp [hstep]
          have hharmless := h [] [update] updates start next rfl rfl hone
          exact (harmlessResave_iff hjobs hstart hadvance).mp hharmless
        refine ⟨fun next hstep => (ascends_iff hstart hstep).mp (hascends next hstep),
          fun next hstep => ih (hascends next hstep).1 ?_⟩
        intro before between after older newer hsplit holder hnewer
        refine h (update :: before) between after older newer (by rw [hsplit]; rfl) ?_ hnewer
        rw [run_cons, Option.mem_def.mp hstep]
        exact holder
  · rintro halong before between after older newer rfl holder hnewer
    have hbefore := absorbs_of_run hstart halong.of_append.of_append holder
    have hbetween := absorbs_of_run hbefore.1 (halong.of_append.of_run _ holder) hnewer
    exact (harmlessResave_iff hbetween.1.toTidyJobs hbefore.1 hbetween.2.2).mpr
      ⟨hbetween.1, hbetween.2.1⟩

/-- A job that ends is safe from every copy of before. -/
theorem stale_saves_harmless_busySession :
    TidyLedgers samplePlatform busySession ∧ ∀ before between after older newer,
      [LedgerUpdate.jobSettled runningSampleJob (.completed "Done.") "2026-01-01T00:01:00.000Z"
        "2026-01-01T00:01:00.000Z" .keep] = before ++ between ++ after →
      run (ledgerStep samplePlatform resaveCaps) busySession before = some older →
      run (ledgerStep samplePlatform resaveCaps) older between = some newer →
        HarmlessResave samplePlatform sampleSha newer older := by
  refine ⟨tidy_busySession, (stale_saves_harmless tidy_busySession _).mpr
    ⟨fun next _ => ⟨?_, trivial⟩, fun _ _ => trivial⟩⟩
  intro job hjob held hheld _
  cases hjob
  rw [List.mem_singleton.mp hheld]
  exact settledJob_outranks rfl _ _ _ _

/-- After the three updates a save of the session from before forgets the acknowledgement, opens
the closed browser again and brings the old answer back beside the new one. -/
theorem stale_save_undoes_updates :
    TidyLedgers samplePlatform busySession ∧
      ∃ newer, run (ledgerStep samplePlatform resaveCaps) busySession sampleUpdates = some newer ∧
        newer.recentJobs.map (·.ackMessageId) = [some "message-1"] ∧
        newer.browserSessions.map (·.status) = [.closed] ∧
        newer.conversationTurns.map (·.text) = ["Retrying."] ∧
        let merged := mergedSession samplePlatform sampleSha newer
          { busySession with updatedAt := "2026-01-01T00:02:00.000Z" }
        merged.recentJobs.map (·.ackMessageId) = [none] ∧
        merged.browserSessions.map (·.status) = [.opened] ∧
        merged.browserSessions.map (·.linkedProcessPid) = [some 40] ∧
        merged.conversationTurns.map (·.text) = ["Blocked.", "Retrying."] ∧
        ¬ HarmlessResave samplePlatform sampleSha newer busySession := by
  refine ⟨tidy_busySession, _, rfl, ?_, ?_, ?_, ?_, ?_, ?_, ?_, fun h => ?_⟩
  any_goals decide
  have hperm := (h "2026-01-01T00:02:00.000Z").recentJobs.map (·.ackMessageId)
  exact absurd hperm (by decide)

end AgentBigBrain.Interfaces

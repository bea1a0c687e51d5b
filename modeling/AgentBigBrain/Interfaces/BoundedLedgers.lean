import AgentBigBrain.Interfaces.SessionStore

/-!
# Bounded ledgers

Each mutation cuts its list to the configured cap, in the snapshot it works on. The JSON backend
then adds the snapshot to what is stored, so a stored list grows by every record whose merge
key it does not hold yet.
-/
namespace AgentBigBrain.Interfaces

open AgentBigBrain.Js AgentBigBrain.Core AgentBigBrain.Lib

variable (platform : Platform) (sha : Sha256)

/-! ## Ledgers -/

inductive LedgerKind where
  | conversationTurns
  | recentJobs
  | recentActions
  | browserSessions
  | pathDestinations
  deriving DecidableEq

/-- The configured caps. -/
structure LedgerCaps where
  maxConversationTurns : ℕ
  maxRecentJobs : ℕ
  maxRecentActions : ℕ
  maxBrowserSessions : ℕ
  maxPathDestinations : ℕ

def LedgerCaps.cap (caps : LedgerCaps) : LedgerKind → ℕ
  | .conversationTurns => caps.maxConversationTurns
  | .recentJobs => caps.maxRecentJobs
  | .recentActions => caps.maxRecentActions
  | .browserSessions => caps.maxBrowserSessions
  | .pathDestinations => caps.maxPathDestinations

/-- A session holds no more records than the caps allow. -/
structure WithinCaps (caps : LedgerCaps) (session : ConversationSession) : Prop where
  conversationTurns : session.conversationTurns.length ≤ caps.maxConversationTurns
  recentJobs : session.recentJobs.length ≤ caps.maxRecentJobs
  recentActions : session.recentActions.length ≤ caps.maxRecentActions
  browserSessions : session.browserSessions.length ≤ caps.maxBrowserSessions
  pathDestinations : session.pathDestinations.length ≤ caps.maxPathDestinations

/-- The key a turn is merged under once it is normalized. -/
def storedTurnKey (turn : ConversationTurn) : String :=
  buildConversationTurnMergeKey (normalizeConversationTurn turn)

/-- The keys a list of the session is merged under, one for each record. -/
def ledgerKeys (session : ConversationSession) : LedgerKind → List String
  | .conversationTurns => session.conversationTurns.map storedTurnKey
  | .recentJobs => session.recentJobs.map ConversationJob.id
  | .recentActions => session.recentActions.map ConversationRecentActionRecord.id
  | .browserSessions => session.browserSessions.map ConversationBrowserSessionRecord.id
  | .pathDestinations =>
      session.pathDestinations.map fun destination => platform.toLowerCase destination.label

lemma withinCaps_iff (caps : LedgerCaps) (session : ConversationSession) :
    WithinCaps caps session ↔
      ∀ kind, (ledgerKeys platform session kind).length ≤ caps.cap kind := by
  constructor
  · intro h kind
    cases kind with
    | conversationTurns => simpa [ledgerKeys, LedgerCaps.cap] using h.conversationTurns
    | recentJobs => simpa [ledgerKeys, LedgerCaps.cap] using h.recentJobs
    | recentActions => simpa [ledgerKeys, LedgerCaps.cap] using h.recentActions
    | browserSessions => simpa [ledgerKeys, LedgerCaps.cap] using h.browserSessions
    | pathDestinations => simpa [ledgerKeys, LedgerCaps.cap] using h.pathDestinations
  · intro h
    refine ⟨?_, ?_, ?_, ?_, ?_⟩
    · simpa [ledgerKeys, LedgerCaps.cap] using h .conversationTurns
    · simpa [ledgerKeys, LedgerCaps.cap] using h .recentJobs
    · simpa [ledgerKeys, LedgerCaps.cap] using h .recentActions
    · simpa [ledgerKeys, LedgerCaps.cap] using h .browserSessions
    · simpa [ledgerKeys, LedgerCaps.cap] using h .pathDestinations

/-! ## Keys of a stored session -/

@[simp] lemma storedTurnKey_normalize (turn : ConversationTurn) :
    storedTurnKey (normalizeConversationTurn turn) = storedTurnKey turn := by
  have hactor : ∀ t : ConversationTurn,
      (normalizeConversationTurn t).actor = t.actor := by
    intro t
    unfold ConversationTurn.actor normalizeConversationTurn
    cases hmetadata : t.metadata with
    | none => rfl
    | some metadata =>
        unfold normalizeConversationTurnMetadata
        dsimp only [Option.bind_some]
        split
        · rename_i hnone
          simp only [Bool.and_eq_true, Option.isNone_iff_eq_none] at hnone
          simp [hnone.1.2]
        · rfl
  unfold storedTurnKey buildConversationTurnMergeKey
  simp only [hactor]
  rfl

lemma key_of_normalized (turn : ConversationTurn) :
    turnsByKey.key (normalizeConversationTurn turn) = storedTurnKey turn := rfl

/-- Normalization keeps every merge key. -/
@[simp] lemma ledgerKeys_normalizedSession (session : ConversationSession) (kind : LedgerKind) :
    ledgerKeys platform (normalizedSession platform sha session) kind =
      ledgerKeys platform session kind := by
  cases kind <;>
    simp [ledgerKeys, normalizedSession, Function.comp_def, normalizeConversationJob,
      normalizeRecentActionRecord, normalizeBrowserSessionRecord, normalizePathDestinationRecord]

/-- A list merged under a key holds the keys of both sides, each once. -/
lemma mergeSorted_keys {α : Type*} (m : KeyedMerge α String) (order : Comparator α)
    (existing incoming : List α) :
    ((mergeSorted m order existing incoming).map m.key).Nodup ∧
      ∀ key, key ∈ (mergeSorted m order existing incoming).map m.key ↔
        key ∈ existing.map m.key ∨ key ∈ incoming.map m.key := by
  refine ⟨(listInOrder_mergeSorted existing incoming).distinct, fun key => ?_⟩
  rw [← m.mem_keys_values existing incoming]
  exact ((order.sort_perm _).map m.key).mem_iff

/-- A turn of the merged history has no id of its own. -/
lemma storedTurnKey_of_merged (existing incoming : List ConversationTurn) :
    (mergeConversationTurns platform (existing.map normalizeConversationTurn)
        (incoming.map normalizeConversationTurn)).map storedTurnKey =
      (mergeConversationTurns platform (existing.map normalizeConversationTurn)
        (incoming.map normalizeConversationTurn)).map turnsByKey.key := by
  refine List.map_congr_left fun turn hturn => ?_
  have hnormal : ∀ xs : List ConversationTurn, ∀ x ∈ xs.map normalizeConversationTurn,
      storedTurnKey x = turnsByKey.key x := by
    intro xs x hx
    obtain ⟨t, -, rfl⟩ := List.mem_map.mp hx
    rw [storedTurnKey_normalize, key_of_normalized]
  exact turnsByKey.forall_values (P := fun x => storedTurnKey x = turnsByKey.key x)
    (hnormal existing) (hnormal incoming) (fun _ _ _ _ hnew => hnew) turn (mem_mergeSorted.mp hturn)

/-- Merging a snapshot into a stored session stores the records of both. -/
theorem ledgerKeys_mergedSession (existing incoming : ConversationSession) (kind : LedgerKind) :
    (ledgerKeys platform (mergedSession platform sha (normalizedSession platform sha existing)
        (normalizedSession platform sha incoming)) kind).Nodup ∧
      ∀ key, key ∈ ledgerKeys platform (mergedSession platform sha
          (normalizedSession platform sha existing) (normalizedSession platform sha incoming)) kind ↔
        key ∈ ledgerKeys platform existing kind ∨ key ∈ ledgerKeys platform incoming kind := by
  have hexisting := ledgerKeys_normalizedSession platform sha existing kind
  have hincoming := ledgerKeys_normalizedSession platform sha incoming kind
  rw [← hexisting, ← hincoming]
  cases kind with
  | conversationTurns =>
      have hkeys := mergeSorted_keys turnsByKey (turnOrder platform)
        (existing.conversationTurns.map normalizeConversationTurn)
        (incoming.conversationTurns.map normalizeConversationTurn)
      have hmerged := storedTurnKey_of_merged platform existing.conversationTurns
        incoming.conversationTurns
      have hnormal : ∀ xs : List ConversationTurn,
          (xs.map normalizeConversationTurn).map storedTurnKey =
            (xs.map normalizeConversationTurn).map turnsByKey.key := by
        intro xs
        simp [Function.comp_def, key_of_normalized]
      unfold mergeConversationTurns at hmerged
      simp only [ledgerKeys, mergedSession, mergedConversationTurns, mergeConversationTurns,
        normalizedSession, hmerged, hnormal]
      exact hkeys
  | recentJobs =>
      have hkeys := mergeSorted_keys jobsById (jobOrder platform)
        (existing.recentJobs.map normalizeConversationJob)
        (incoming.recentJobs.map normalizeConversationJob)
      have hids := map_id_applyVerifiedJobSnapshots
        (snapshotSources (normalizedSession platform sha existing)
          (normalizedSession platform sha incoming))
        (mergeConversationJobs platform (normalizedSession platform sha existing).recentJobs
          (normalizedSession platform sha incoming).recentJobs)
      simp only [ledgerKeys, mergedSession, mergedRecentJobs]
      change (List.map jobsById.key _).Nodup ∧ ∀ key, key ∈ List.map jobsById.key _ ↔ _
      rw [hids]
      exact hkeys
  | recentActions => exact mergeSorted_keys actionsById (actionOrder platform) _ _
  | browserSessions => exact mergeSorted_keys browserSessionsById (browserSessionOrder platform) _ _
  | pathDestinations =>
      exact mergeSorted_keys (destinationsByLabel platform) (destinationOrder platform) _ _

/-! ## Mutations -/

inductive LedgerMutation where
  | pushConversationTurn (role : TurnRole) (text time : String)
      (options : PushConversationTurnOptions)
  | upsertRecentJob (job : ConversationJob)
  | upsertRecentAction (action : ConversationRecentActionRecord)
  | upsertBrowserSession (browserSession : ConversationBrowserSessionRecord)
  | upsertPathDestination (destination : ConversationPathDestinationRecord)

variable (stripLabelStyleOpening : String → String) (caps : LedgerCaps)

def LedgerMutation.apply (session : ConversationSession) : LedgerMutation → ConversationSession
  | .pushConversationTurn role text time options =>
      AgentBigBrain.Interfaces.pushConversationTurn stripLabelStyleOpening session role text time
        caps.maxConversationTurns options
  | .upsertRecentJob job => AgentBigBrain.Interfaces.upsertRecentJob session job caps.maxRecentJobs
  | .upsertRecentAction action =>
      AgentBigBrain.Interfaces.upsertRecentAction platform session action caps.maxRecentActions
  | .upsertBrowserSession browserSession =>
      AgentBigBrain.Interfaces.upsertBrowserSession platform session browserSession
        caps.maxBrowserSessions
  | .upsertPathDestination destination =>
      AgentBigBrain.Interfaces.upsertPathDestination platform session destination
        caps.maxPathDestinations

/-- The list a mutation writes to and the merge key of its record, unless the record is a blank
turn. -/
def LedgerMutation.recorded : LedgerMutation → Option (LedgerKind × String)
  | .pushConversationTurn role text time options =>
      (recordedTurn stripLabelStyleOpening role text time options).map fun turn =>
        (.conversationTurns, storedTurnKey turn)
  | .upsertRecentJob job => some (.recentJobs, job.id)
  | .upsertRecentAction action => some (.recentActions, action.id)
  | .upsertBrowserSession browserSession => some (.browserSessions, browserSession.id)
  | .upsertPathDestination destination =>
      some (.pathDestinations, platform.toLowerCase destination.label)

lemma lastItems_subset {α : Type*} (max : ℕ) (items : List α) : lastItems max items ⊆ items := by
  unfold lastItems
  split_ifs
  · exact List.Subset.refl items
  · exact List.drop_subset _ _

/-- A capped list holds the new record and records it held before. -/
lemma mem_sorted_take {α : Type*} {order : Comparator α} {id : α → String} {record x : α}
    {records : List α} {max : ℕ}
    (h : x ∈ (order.sort (replaceById id record records)).take max) : x = record ∨ x ∈ records := by
  have hmem := order.mem_sort.mp (List.take_subset _ _ h)
  rcases List.mem_cons.mp hmem with rfl | hold
  · exact Or.inl rfl
  · exact Or.inr (List.mem_of_mem_filter hold)

/-- A mutation adds no key but that of its record. -/
lemma ledgerKeys_apply (session : ConversationSession) (mutation : LedgerMutation)
    (kind : LedgerKind) {key : String}
    (hkey : key ∈ ledgerKeys platform
      (mutation.apply platform stripLabelStyleOpening caps session) kind) :
    key ∈ ledgerKeys platform session kind ∨
      mutation.recorded platform stripLabelStyleOpening = some (kind, key) := by
  cases mutation with
  | pushConversationTurn role text time options =>
      unfold LedgerMutation.apply AgentBigBrain.Interfaces.pushConversationTurn at hkey
      unfold LedgerMutation.recorded
      dsimp only at hkey ⊢
      cases hturn : recordedTurn stripLabelStyleOpening role text time options with
      | none =>
          rw [hturn] at hkey
          exact Or.inl hkey
      | some turn =>
          rw [hturn] at hkey
          cases kind with
          | conversationTurns =>
              obtain ⟨x, hx, rfl⟩ := List.mem_map.mp hkey
              rcases List.mem_append.mp (lastItems_subset _ _ hx) with hold | hnew
              · exact Or.inl (List.mem_map_of_mem hold)
              · rw [List.mem_singleton.mp hnew]
                exact Or.inr rfl
          | recentJobs | recentActions | browserSessions | pathDestinations => exact Or.inl hkey
  | upsertRecentJob job =>
      cases kind with
      | recentJobs =>
          obtain ⟨x, hx, rfl⟩ := List.mem_map.mp hkey
          rcases List.mem_cons.mp (List.take_subset _ _ hx) with rfl | hold
          · exact Or.inr rfl
          · exact Or.inl (List.mem_map_of_mem (List.mem_of_mem_filter hold))
      | conversationTurns | recentActions | browserSessions | pathDestinations => exact Or.inl hkey
  | upsertRecentAction action =>
      cases kind with
      | recentActions =>
          obtain ⟨x, hx, rfl⟩ := List.mem_map.mp hkey
          rcases mem_sorted_take hx with rfl | hold
          · exact Or.inr rfl
          · exact Or.inl (List.mem_map_of_mem hold)
      | conversationTurns | recentJobs | browserSessions | pathDestinations => exact Or.inl hkey
  | upsertBrowserSession browserSession =>
      cases kind with
      | browserSessions =>
          obtain ⟨x, hx, rfl⟩ := List.mem_map.mp hkey
          rcases mem_sorted_take hx with rfl | hold
          · exact Or.inr rfl
          · exact Or.inl (List.mem_map_of_mem hold)
      | conversationTurns | recentJobs | recentActions | pathDestinations => exact Or.inl hkey
  | upsertPathDestination destination =>
      cases kind with
      | pathDestinations =>
          obtain ⟨x, hx, rfl⟩ := List.mem_map.mp hkey
          rcases mem_sorted_take hx with rfl | hold
          · exact Or.inr rfl
          · exact Or.inl (List.mem_map_of_mem (f := fun destination =>
              platform.toLowerCase destination.label) hold)
      | conversationTurns | recentJobs | recentActions | browserSessions => exact Or.inl hkey

lemma length_lastItems_le {α : Type*} (max : ℕ) (items : List α) :
    (lastItems max items).length ≤ items.length := by
  unfold lastItems
  split_ifs
  · exact le_rfl
  · rw [List.length_drop]
    omega

lemma length_replaceById_le {α : Type*} (id : α → String) (record : α) (records : List α) :
    (replaceById id record records).length ≤ records.length + 1 :=
  Nat.succ_le_succ (List.length_filter_le _ _)

lemma length_sorted_take_le {α : Type*} (order : Comparator α) (id : α → String) (record : α)
    (records : List α) (max : ℕ) :
    ((order.sort (replaceById id record records)).take max).length ≤ records.length + 1 := by
  have hlength := length_replaceById_le id record records
  rw [List.length_take, order.length_sort]
  omega

/-- A mutation makes its list longer by one at most. -/
lemma length_apply_le (session : ConversationSession) (mutation : LedgerMutation)
    (kind : LedgerKind) :
    (ledgerKeys platform (mutation.apply platform stripLabelStyleOpening caps session) kind).length ≤
      (ledgerKeys platform session kind).length + 1 := by
  cases mutation with
  | pushConversationTurn role text time options =>
      unfold LedgerMutation.apply AgentBigBrain.Interfaces.pushConversationTurn
      dsimp only
      split
      · omega
      · rename_i turn _
        cases kind with
        | conversationTurns =>
            have hlength := length_lastItems_le caps.maxConversationTurns
              (session.conversationTurns ++ [turn])
            simp only [ledgerKeys, List.length_map]
            refine hlength.trans ?_
            simp
        | recentJobs | recentActions | browserSessions | pathDestinations => exact Nat.le_succ _
  | upsertRecentJob job =>
      cases kind with
      | recentJobs =>
          have hlength := length_replaceById_le ConversationJob.id job session.recentJobs
          simp only [ledgerKeys, List.length_map, LedgerMutation.apply,
            AgentBigBrain.Interfaces.upsertRecentJob, List.length_take]
          omega
      | conversationTurns | recentActions | browserSessions | pathDestinations =>
          exact Nat.le_succ _
  | upsertRecentAction action =>
      cases kind with
      | recentActions =>
          simp only [ledgerKeys, List.length_map]
          exact length_sorted_take_le _ _ _ _ _
      | conversationTurns | recentJobs | browserSessions | pathDestinations => exact Nat.le_succ _
  | upsertBrowserSession browserSession =>
      cases kind with
      | browserSessions =>
          simp only [ledgerKeys, List.length_map]
          exact length_sorted_take_le _ _ _ _ _
      | conversationTurns | recentJobs | recentActions | pathDestinations => exact Nat.le_succ _
  | upsertPathDestination destination =>
      cases kind with
      | pathDestinations =>
          simp only [ledgerKeys, List.length_map]
          exact length_sorted_take_le _ _ _ _ _
      | conversationTurns | recentJobs | recentActions | browserSessions => exact Nat.le_succ _

@[simp] lemma apply_updatedAt (session : ConversationSession) (mutation : LedgerMutation) :
    (mutation.apply platform stripLabelStyleOpening caps session).updatedAt =
      session.updatedAt := by
  cases mutation with
  | pushConversationTurn role text time options =>
      unfold LedgerMutation.apply AgentBigBrain.Interfaces.pushConversationTurn
      dsimp only
      split <;> rfl
  | upsertRecentJob | upsertRecentAction | upsertBrowserSession | upsertPathDestination => rfl

@[simp] lemma apply_conversationId (session : ConversationSession) (mutation : LedgerMutation) :
    (mutation.apply platform stripLabelStyleOpening caps session).conversationId =
      session.conversationId := by
  cases mutation with
  | pushConversationTurn role text time options =>
      unfold LedgerMutation.apply AgentBigBrain.Interfaces.pushConversationTurn
      dsimp only
      split <;> rfl
  | upsertRecentJob | upsertRecentAction | upsertBrowserSession | upsertPathDestination => rfl

/-! ## Runs -/

/-- A mutation of the session at hand is saved at once; between two of them the session may be
read from the store again. -/
inductive LedgerStep where
  | record (mutation : LedgerMutation)
  | reload

structure LedgerRun where
  store : JsonStore platform
  session : ConversationSession

variable {platform}

namespace LedgerRun

/-- What the store holds of the conversation. -/
def stored (run : LedgerRun platform) : Option ConversationSession :=
  run.store.getSession sha run.session.conversationId

def step (run : LedgerRun platform) : LedgerStep → LedgerRun platform
  | .record mutation =>
      let session := mutation.apply platform stripLabelStyleOpening caps run.session
      { store := run.store.setSession sha session, session := session }
  | .reload => { run with session := (run.stored sha).getD run.session }

variable (platform) in
/-- A run on a new store. -/
def ofSteps (start : ConversationSession) (steps : List LedgerStep) : LedgerRun platform :=
  steps.foldl (step sha stripLabelStyleOpening caps) ⟨.new, start⟩

def storedKeys (run : LedgerRun platform) (kind : LedgerKind) : List String :=
  (run.stored sha).elim [] fun session => ledgerKeys platform session kind

/-- The record is stored already, the stored list has room for it, or the in-memory cap drops it
from the snapshot at once. -/
def HasRoom (run : LedgerRun platform) : LedgerStep → Prop
  | .record mutation => ∀ kind key,
      mutation.recorded platform stripLabelStyleOpening = some (kind, key) →
        key ∈ run.storedKeys sha kind ∨
          (run.storedKeys sha kind).length < caps.cap kind ∨
          key ∉ ledgerKeys platform
            (mutation.apply platform stripLabelStyleOpening caps run.session) kind
  | .reload => True

/-! ## The stored keys of a run -/

/-- What every step keeps: the store holds what its file holds, the session at hand has nothing
the store lacks, and no stored list holds a key twice. -/
structure Kept (run : LedgerRun platform) : Prop where
  dated : isDate platform run.session.updatedAt = true
  written : ∀ id, run.store.getSession sha id = run.store.file.find id
  fresh : run.stored sha = none → ∀ kind, ledgerKeys platform run.session kind = []
  identified : ∀ session, run.stored sha = some session →
    session.conversationId = run.session.conversationId
  covered : ∀ session, run.stored sha = some session → ∀ kind key,
    key ∈ ledgerKeys platform run.session kind → key ∈ ledgerKeys platform session kind
  once : ∀ kind, (run.storedKeys sha kind).Nodup

variable {sha}

lemma getSession_eq_file (store : JsonStore platform)
    (h : ∀ id, store.getSession sha id = store.file.find id) (session : ConversationSession)
    (id : String) : (store.setSession sha session).getSession sha id =
      (store.setSession sha session).file.find id := by
  unfold JsonStore.setSession
  split
  · dsimp only
    split <;> rfl
  · exact h id

lemma stored_keys_of_record {run : LedgerRun platform} (h : Kept sha run)
    (mutation : LedgerMutation) :
    ∃ session,
      (run.step sha stripLabelStyleOpening caps (.record mutation)).stored sha = some session ∧
      session.conversationId = run.session.conversationId ∧
      ∀ kind, (ledgerKeys platform session kind).Nodup ∧
        ∀ key, key ∈ ledgerKeys platform session kind ↔ key ∈ run.storedKeys sha kind ∨
          key ∈ ledgerKeys platform
            (mutation.apply platform stripLabelStyleOpening caps run.session) kind := by
  have hdated : isDate platform
      (mutation.apply platform stripLabelStyleOpening caps run.session).updatedAt = true := by
    rw [apply_updatedAt]
    exact h.dated
  have hset := run.store.getSession_setSession sha hdated run.session.conversationId
  rw [apply_conversationId, if_pos rfl, ← h.written] at hset
  have hid : (run.step sha stripLabelStyleOpening caps (.record mutation)).stored sha =
      (run.store.setSession sha
        (mutation.apply platform stripLabelStyleOpening caps run.session)).getSession sha
          run.session.conversationId := by
    unfold stored step
    dsimp only
    rw [apply_conversationId]
  rw [hid, hset]
  refine ⟨_, rfl, ?_, fun kind => ?_⟩
  · cases run.store.getSession sha run.session.conversationId <;>
      exact apply_conversationId platform stripLabelStyleOpening caps run.session mutation
  unfold storedKeys
  cases hstored : run.stored sha with
  | none =>
      have hnone : run.store.getSession sha run.session.conversationId = none := hstored
      have hlength := length_apply_le platform stripLabelStyleOpening caps run.session mutation kind
      rw [h.fresh hstored kind] at hlength
      have honce : (ledgerKeys platform
          (mutation.apply platform stripLabelStyleOpening caps run.session) kind).Nodup := by
        match hkeys : ledgerKeys platform
            (mutation.apply platform stripLabelStyleOpening caps run.session) kind with
        | [] => exact List.nodup_nil
        | [key] => exact List.nodup_singleton key
        | _ :: _ :: _ =>
            rw [hkeys] at hlength
            simp at hlength
      rw [hnone]
      simp only [Option.map_none, Option.elim_none, ledgerKeys_normalizedSession,
        List.not_mem_nil, false_or, implies_true, and_true]
      exact honce
  | some existing =>
      have hsome : run.store.getSession sha run.session.conversationId = some existing := hstored
      rw [hsome]
      exact ledgerKeys_mergedSession platform sha existing _ kind

/-- Reading the session again changes nothing in the store. -/
lemma stored_reload {run : LedgerRun platform} (h : Kept sha run) :
    (run.step sha stripLabelStyleOpening caps .reload).stored sha = run.stored sha := by
  unfold LedgerRun.step
  cases hstored : run.stored sha with
  | none => exact hstored
  | some session =>
      unfold stored at hstored ⊢
      dsimp only [Option.getD_some]
      rw [h.identified session hstored]
      exact hstored

lemma kept_step {run : LedgerRun platform} (h : Kept sha run) (step : LedgerStep) :
    Kept sha (run.step sha stripLabelStyleOpening caps step) := by
  cases step with
  | record mutation =>
      obtain ⟨session, hsession, hid, hkeys⟩ := stored_keys_of_record stripLabelStyleOpening caps h mutation
      refine ⟨?_, getSession_eq_file _ h.written _, ?_, ?_, ?_, ?_⟩
      · unfold LedgerRun.step
        rw [apply_updatedAt]
        exact h.dated
      · intro hnone
        rw [hsession] at hnone
        cases hnone
      · intro other hother
        rw [hsession] at hother
        cases hother
        unfold LedgerRun.step
        rw [apply_conversationId]
        exact hid
      · intro other hother kind key hkey
        rw [hsession] at hother
        cases hother
        exact ((hkeys kind).2 key).mpr (Or.inr hkey)
      · intro kind
        unfold storedKeys
        rw [hsession]
        exact (hkeys kind).1
  | reload =>
      cases hstored : run.stored sha with
      | none =>
          have hsame : run.step sha stripLabelStyleOpening caps .reload = run := by
            unfold LedgerRun.step
            rw [hstored]
            rfl
          rw [hsame]
          exact h
      | some session =>
          have hsame := stored_reload stripLabelStyleOpening caps h
          have hstep : run.step sha stripLabelStyleOpening caps .reload =
              { run with session := session } := by
            unfold LedgerRun.step
            rw [hstored]
            rfl
          rw [hstored, hstep] at hsame
          rw [hstep]
          refine ⟨Conversations.isDate_of_find hstored, h.written, ?_, ?_, ?_, ?_⟩
          · intro hnone
            rw [hsame] at hnone
            cases hnone
          · intro other hother
            rw [hsame] at hother
            cases hother
            rfl
          · intro other hother kind key hkey
            rw [hsame] at hother
            cases hother
            exact hkey
          · intro kind
            have honce := h.once kind
            unfold storedKeys at honce ⊢
            rw [hstored] at honce
            rw [hsame]
            exact honce

variable (sha) in
/-- The stored session is within the caps. -/
def StoredWithinCaps (run : LedgerRun platform) : Prop :=
  ∀ session, run.stored sha = some session → WithinCaps caps session

lemma storedWithinCaps_iff (run : LedgerRun platform) :
    StoredWithinCaps sha caps run ↔ ∀ kind, (run.storedKeys sha kind).length ≤ caps.cap kind := by
  unfold StoredWithinCaps storedKeys
  cases run.stored sha with
  | none => simp
  | some session => simpa using withinCaps_iff platform caps session

/-- A step with room keeps the stored lists within the caps. -/
lemma within_step {run : LedgerRun platform} (h : Kept sha run)
    (hwithin : StoredWithinCaps sha caps run) {step : LedgerStep}
    (hroom : HasRoom sha stripLabelStyleOpening caps run step) :
    StoredWithinCaps sha caps (run.step sha stripLabelStyleOpening caps step) := by
  rw [storedWithinCaps_iff] at hwithin ⊢
  intro kind
  cases step with
  | reload =>
      unfold storedKeys
      rw [stored_reload stripLabelStyleOpening caps h]
      exact hwithin kind
  | record mutation =>
      obtain ⟨session, hsession, -, hkeys⟩ := stored_keys_of_record stripLabelStyleOpening caps
        h mutation
      obtain ⟨honce, hmem⟩ := hkeys kind
      have hold : ∀ key, key ∈ ledgerKeys platform run.session kind →
          key ∈ run.storedKeys sha kind := by
        intro key hkey
        unfold storedKeys
        cases hstored : run.stored sha with
        | none =>
            rw [h.fresh hstored kind] at hkey
            cases hkey
        | some existing => exact h.covered existing hstored kind key hkey
      unfold storedKeys
      rw [hsession, Option.elim_some]
      by_cases hnew : ∃ key, mutation.recorded platform stripLabelStyleOpening =
          some (kind, key) ∧ key ∉ run.storedKeys sha kind ∧
            key ∈ ledgerKeys platform
              (mutation.apply platform stripLabelStyleOpening caps run.session) kind
      · obtain ⟨key, hrecorded, hfresh, hentered⟩ := hnew
        have hlength : (run.storedKeys sha kind).length < caps.cap kind := by
          rcases hroom kind key hrecorded with hstored | hlength | hdropped
          · exact absurd hstored hfresh
          · exact hlength
          · exact absurd hentered hdropped
        have hsubset : ledgerKeys platform session kind ⊆ key :: run.storedKeys sha kind := by
          intro other hother
          rcases (hmem other).mp hother with hother | hother
          · exact List.mem_cons_of_mem key hother
          · rcases ledgerKeys_apply platform stripLabelStyleOpening caps run.session mutation kind
              hother with hother | hother
            · exact List.mem_cons_of_mem key (hold other hother)
            · rw [hrecorded] at hother
              cases hother
              exact List.mem_cons_self
        have hle := (honce.subperm hsubset).length_le
        rw [List.length_cons] at hle
        omega
      · have hsubset : ledgerKeys platform session kind ⊆ run.storedKeys sha kind := by
          intro other hother
          rcases (hmem other).mp hother with hstored | hentered
          · exact hstored
          · rcases ledgerKeys_apply platform stripLabelStyleOpening caps run.session mutation kind
              hentered with hother | hrecorded
            · exact hold other hother
            · by_contra hfresh
              exact hnew ⟨other, hrecorded, hfresh, hentered⟩
        exact (honce.subperm hsubset).length_le.trans (hwithin kind)

/-- A step without room takes a stored list over its cap. -/
lemma exceeds_step {run : LedgerRun platform} (h : Kept sha run) {step : LedgerStep}
    (hroom : ¬ HasRoom sha stripLabelStyleOpening caps run step) :
    ¬ StoredWithinCaps sha caps (run.step sha stripLabelStyleOpening caps step) := by
  cases step with
  | reload => exact absurd trivial hroom
  | record mutation =>
      unfold HasRoom at hroom
      push Not at hroom
      obtain ⟨kind, key, -, hfresh, hfull, hentered⟩ := hroom
      obtain ⟨session, hsession, -, hkeys⟩ := stored_keys_of_record stripLabelStyleOpening caps
        h mutation
      obtain ⟨-, hmem⟩ := hkeys kind
      have hsubset : key :: run.storedKeys sha kind ⊆ ledgerKeys platform session kind := by
        intro other hother
        rcases List.mem_cons.mp hother with rfl | hother
        · exact (hmem other).mpr (Or.inr hentered)
        · exact (hmem other).mpr (Or.inl hother)
      have hle := ((List.nodup_cons.mpr ⟨hfresh, h.once kind⟩).subperm hsubset).length_le
      rw [List.length_cons] at hle
      rw [storedWithinCaps_iff]
      intro hwithin
      have hlength := hwithin kind
      unfold storedKeys at hlength
      rw [hsession, Option.elim_some] at hlength
      omega

variable (sha) in
lemma kept_ofSteps {start : ConversationSession} (hdate : isDate platform start.updatedAt = true)
    (hempty : ∀ kind, ledgerKeys platform start kind = []) (steps : List LedgerStep) :
    Kept sha (ofSteps platform sha stripLabelStyleOpening caps start steps) := by
  induction steps using List.reverseRecOn with
  | nil =>
      refine ⟨hdate, fun _ => rfl, fun _ => hempty, ?_, ?_, fun _ => List.nodup_nil⟩
      · intro session hsession
        cases hsession
      · intro session hsession
        cases hsession
  | append_singleton steps step ih =>
      unfold ofSteps at ih ⊢
      rw [List.foldl_append]
      exact kept_step stripLabelStyleOpening caps ih step

end LedgerRun

/-- In a run on a new store the stored session is within the caps in every state exactly if every
recorded key is stored already, finds room in the stored list or is dropped from the snapshot. -/
theorem storedWithinCaps_of_run_iff (platform : Platform) (sha : Sha256)
    (stripLabelStyleOpening : String → String) (caps : LedgerCaps) {start : ConversationSession}
    (hdate : isDate platform start.updatedAt = true)
    (hempty : ∀ kind, ledgerKeys platform start kind = []) (steps : List LedgerStep) :
    (∀ reached, reached <+: steps → LedgerRun.StoredWithinCaps sha caps
        (LedgerRun.ofSteps platform sha stripLabelStyleOpening caps start reached)) ↔
      ∀ earlier step, earlier ++ [step] <+: steps →
        LedgerRun.HasRoom sha stripLabelStyleOpening caps
          (LedgerRun.ofSteps platform sha stripLabelStyleOpening caps start earlier)
          step := by
  have hkept := fun operations : List LedgerStep =>
    LedgerRun.kept_ofSteps sha stripLabelStyleOpening caps hdate hempty operations
  constructor
  · intro hwithin earlier step hleads
    by_contra hroom
    apply LedgerRun.exceeds_step stripLabelStyleOpening caps (hkept earlier) hroom
    have hreached := hwithin _ hleads
    unfold LedgerRun.ofSteps at hreached ⊢
    rw [List.foldl_append] at hreached
    exact hreached
  · intro hroom reached hreached
    induction reached using List.reverseRecOn with
    | nil =>
        intro session hsession
        cases hsession
    | append_singleton reached step ih =>
        have hwithin := ih ((List.prefix_append _ _).trans hreached)
        have hnext := LedgerRun.within_step stripLabelStyleOpening caps (hkept reached) hwithin
          (hroom reached step hreached)
        unfold LedgerRun.ofSteps at hnext ⊢
        rw [List.foldl_append]
        exact hnext

/-! ## A second turn under a cap of one -/

def oneTurnCaps : LedgerCaps := ⟨1, 1, 1, 1, 1⟩

def firstPush : LedgerStep :=
  .record (.pushConversationTurn .user "hi" "2026-01-01T00:01:00.000Z" ⟨none, none⟩)

def secondPush : LedgerStep :=
  .record (.pushConversationTurn .user "ok" "2026-01-01T00:02:00.000Z" ⟨none, none⟩)

theorem storedWithinCaps_of_run_iff_of_push :
    isDate samplePlatform sampleSession.updatedAt = true ∧
      (∀ kind, ledgerKeys samplePlatform sampleSession kind = []) ∧
      ((∀ reached, reached <+: [firstPush] → LedgerRun.StoredWithinCaps sampleSha oneTurnCaps
          (LedgerRun.ofSteps samplePlatform sampleSha id oneTurnCaps sampleSession reached)) ↔
        ∀ earlier step, earlier ++ [step] <+: [firstPush] →
          LedgerRun.HasRoom sampleSha id oneTurnCaps
            (LedgerRun.ofSteps samplePlatform sampleSha id oneTurnCaps sampleSession earlier)
            step) := by
  have hdate : isDate samplePlatform sampleSession.updatedAt = true := by decide
  have hempty : ∀ kind, ledgerKeys samplePlatform sampleSession kind = [] := by
    intro kind
    cases kind <;> rfl
  exact ⟨hdate, hempty,
    storedWithinCaps_of_run_iff samplePlatform sampleSha id oneTurnCaps hdate hempty [firstPush]⟩

/-- The second turn is cut from the snapshot to one and added to the one stored. -/
theorem two_turns_stored_under_cap_one :
    ((LedgerRun.ofSteps samplePlatform sampleSha id oneTurnCaps sampleSession
        [firstPush, secondPush]).session.conversationTurns.length = oneTurnCaps.maxConversationTurns) ∧
      ((LedgerRun.ofSteps samplePlatform sampleSha id oneTurnCaps sampleSession
        [firstPush, secondPush]).stored sampleSha).map (fun session =>
          session.conversationTurns.length) = some 2 := by
  constructor
  · decide
  · decide

end AgentBigBrain.Interfaces

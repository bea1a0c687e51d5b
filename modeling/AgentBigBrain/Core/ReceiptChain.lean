import AgentBigBrain.Core.ExecutionReceipts

/-!
# Retention and tamper evidence of the receipt chain

Every append seals a receipt over the digest stored last, so the receipts emitted over a
run form one linked chain, and each backend keeps its newest part. Verification starts
from `GENESIS` again, so it accepts what is kept exactly when nothing was dropped.
Below the retention cap the whole chain is kept, and an edit of the document that
changes what is loaded is noticed.
-/
namespace AgentBigBrain.Core

open Js HashChain

variable (sha : Sha256) (locale : Locale)

/-! ## Runs -/

/-- A sequence of append calls; a call that throws leaves the store as it is. The second
component lists the receipts handed back to the callers. -/
def runAppends {S : Type} (append : S → AppendCall → Except String (S × ExecutionReceipt)) :
    S → List AppendCall → S × List ExecutionReceipt
  | s, [] => (s, [])
  | s, call :: calls =>
      match append s call with
      | .error _ => runAppends append s calls
      | .ok (s', receipt) =>
          let rest := runAppends append s' calls
          (rest.1, receipt :: rest.2)

/-- The receipts kept of a linked chain. -/
structure Retains (cap : ℕ) (chain kept : List SealedReceipt) : Prop where
  linked : Linked (receiptView sha) genesis chain
  kept_eq : kept = retainLast cap chain

lemma retainLast_concat {α : Type*} (cap : ℕ) (xs : List α) (x : α) :
    retainLast cap (retainLast cap xs ++ [x]) = retainLast cap (xs ++ [x]) := by
  unfold retainLast
  rw [← List.drop_append_of_le_length (by omega), List.drop_drop]
  congr 1
  simp only [List.length_append, List.length_drop, List.length_singleton]
  omega

lemma getLast?_retainLast {α : Type*} {cap : ℕ} (hcap : 1 ≤ cap) (xs : List α) :
    (retainLast cap xs).getLast? = xs.getLast? := by
  unfold retainLast
  rw [List.getLast?_drop]
  split_ifs with h
  · rw [List.length_eq_zero_iff.mp (by omega : xs.length = 0)]
    rfl
  · rfl

lemma lastHash_eq (d : String) (chain : List SealedReceipt) :
    lastHash (receiptView sha) d chain = (chain.getLast?.map (·.receiptHash)).getD d := by
  induction chain generalizing d with
  | nil => rfl
  | cons r chain ih =>
      rw [lastHash, ih]
      cases chain with
      | nil => rfl
      | cons s chain => rw [List.getLast?_cons_cons, List.getLast?_cons]; rfl

/-- One append keeps the newest part of the longer chain. -/
theorem Retains.append {cap : ℕ} (hcap : 1 ≤ cap) {chain kept : List SealedReceipt}
    (h : Retains sha cap chain kept) (base : BaseReceipt)
    (hprior : base.priorReceiptHash = (kept.getLast?.map (·.receiptHash)).getD genesis) :
    Retains sha cap (chain ++ [sealReceipt sha base])
      (retainLast cap (kept ++ [sealReceipt sha base])) := by
  refine ⟨linked_concat _ h.linked ?_ rfl, ?_⟩
  · rw [lastHash_eq, ← getLast?_retainLast hcap, ← h.kept_eq]
    exact hprior
  · rw [h.kept_eq, retainLast_concat]

/-! ## The two backends -/

def sealedItem : Json → Option SealedReceipt
  | .obj raw => some (coerceSealed sha locale raw)
  | _ => none

lemma coerceItems_sealed (mint : ℕ → Stamp) (n : ℕ) (items : List Json) :
    (coerceItems sha locale mint n items).map ExecutionReceipt.toSealedReceipt =
      items.filterMap (sealedItem sha locale) := by
  induction items generalizing n with
  | nil => rfl
  | cons item items ih =>
      cases item with
      | obj raw =>
          simp only [coerceItems, List.map_cons, ih, sealedItem, List.filterMap_cons]
          rfl
      | _ => exact ih n

/-- What was written is loaded again, but for blank ids and times. -/
theorem sealedItem_receiptJson (receipt : ExecutionReceipt) :
    sealedItem sha locale (receiptJson receipt) = some receipt.toSealedReceipt := by
  obtain ⟨⟨⟨_, _, _, _, _, _, _, _, _, access, _⟩, _⟩, ⟨_, _⟩⟩ := receipt
  cases access with
  | none =>
      simp only [sealedItem, receiptJson, coerceSealed, List.lookup_cons, stringOr, String.reduceBEq,
        stringOrNull_jsonOfOption, coercePrincipalAccessMetadata]
  | some m =>
      simp only [sealedItem, receiptJson, coerceSealed, List.lookup_cons, stringOr, String.reduceBEq,
        stringOrNull_jsonOfOption, coercePrincipalAccessMetadata_metadataJson]

lemma filterMap_receiptJson (receipts : List ExecutionReceipt) :
    (receipts.map receiptJson).filterMap (sealedItem sha locale) =
      receipts.map ExecutionReceipt.toSealedReceipt := by
  rw [List.filterMap_map, ← List.filterMap_eq_map]
  exact congrArg (List.filterMap · receipts) (funext (sealedItem_receiptJson sha locale))

lemma retainLast_map {α β : Type*} (f : α → β) (cap : ℕ) (xs : List α) :
    (retainLast cap xs).map f = retainLast cap (xs.map f) := by
  simp [retainLast, List.map_drop]

lemma getLast?_hash (receipts : List ExecutionReceipt) :
    lastReceiptHash receipts =
      (((receipts.map ExecutionReceipt.toSealedReceipt).getLast?).map (·.receiptHash)).getD
        genesis := by
  rw [List.getLast?_map, lastReceiptHash]
  cases receipts.getLast? <;> rfl

/-- The items of the stored document. -/
def storedItems : ReceiptFile → List Json
  | none => []
  | some document => receiptItems document

/-- The receipts a file holds; `id` and `recordedAt` may differ from load to load. -/
def fileReceipts (file : ReceiptFile) : List SealedReceipt :=
  (storedItems file).filterMap (sealedItem sha locale)

lemma load_sealed (mint : ℕ → Stamp) (file : ReceiptFile) :
    (load sha locale mint file).map ExecutionReceipt.toSealedReceipt =
      fileReceipts sha locale file := by
  cases file with
  | none => rfl
  | some document => exact coerceItems_sealed sha locale mint 0 (receiptItems document)

lemma fileReceipts_documentJson (receipts : List ExecutionReceipt) :
    fileReceipts sha locale (some (documentJson (receipts.map receiptJson))) =
      receipts.map ExecutionReceipt.toSealedReceipt :=
  filterMap_receiptJson sha locale receipts

/-- An accepted JSON append. -/
lemma append_json_ok {cap : ℕ} {file file' : ReceiptFile} {call : AppendCall}
    {receipt : ExecutionReceipt}
    (h : appendApprovedActionReceipt sha locale cap file call = .ok (file', receipt)) :
    receipt.toSealedReceipt = sealReceipt sha (buildBaseReceipt sha locale call.input
        (((fileReceipts sha locale file).getLast?.map (·.receiptHash)).getD genesis)) ∧
      fileReceipts sha locale file' =
        retainLast cap (fileReceipts sha locale file ++ [receipt.toSealedReceipt]) := by
  simp only [appendApprovedActionReceipt] at h
  split at h
  · cases h
  · obtain ⟨rfl, rfl⟩ := Prod.mk.inj (Except.ok.inj h)
    constructor
    · rw [getLast?_hash, load_sealed]
    · rw [fileReceipts_documentJson, retainLast_map, List.map_append, load_sealed]
      rfl

def tableReceipts (table : ReceiptTable) : List SealedReceipt :=
  (readSqliteDocument table).map ExecutionReceipt.toSealedReceipt

lemma sqlitePriorReceiptHash_eq {table : ReceiptTable}
    (hpresent : ∀ r ∈ tableReceipts table, isPresent r.receiptHash = true) :
    sqlitePriorReceiptHash table =
      ((tableReceipts table).getLast?.map (·.receiptHash)).getD genesis := by
  rw [tableReceipts, readSqliteDocument, List.map_map, List.getLast?_map,
    sqlitePriorReceiptHash]
  cases hlast : table.getLast? with
  | none => rfl
  | some row =>
      have hrow := hpresent _ (List.mem_map.mpr ⟨_, List.mem_map.mpr
        ⟨row, List.mem_of_getLast? hlast, rfl⟩, rfl⟩)
      change isPresent row.receiptHash = true at hrow
      simp only [hrow, if_true]
      rfl

/-- An accepted SQLite append, as long as no stored digest is blank. -/
lemma append_sqlite_ok {cap : ℕ} {table table' : ReceiptTable} {call : AppendCall}
    {receipt : ExecutionReceipt}
    (hpresent : ∀ r ∈ tableReceipts table, isPresent r.receiptHash = true)
    (h : appendApprovedActionReceiptSqlite sha locale cap table call = .ok (table', receipt)) :
    receipt.toSealedReceipt = sealReceipt sha (buildBaseReceipt sha locale call.input
        (((tableReceipts table).getLast?.map (·.receiptHash)).getD genesis)) ∧
      tableReceipts table' =
        retainLast cap (tableReceipts table ++ [receipt.toSealedReceipt]) := by
  simp only [appendApprovedActionReceiptSqlite] at h
  split at h
  · cases h
  · split at h
    · cases h
    · obtain ⟨rfl, rfl⟩ := Prod.mk.inj (Except.ok.inj h)
      constructor
      · rw [sqlitePriorReceiptHash_eq hpresent]
      · simp [tableReceipts, readSqliteDocument, retainLast_map]

variable {sha} in
lemma Retains.present {cap : ℕ} {chain kept : List SealedReceipt}
    (h : Retains sha cap chain kept) : ∀ r ∈ kept, isPresent r.receiptHash = true := by
  intro r hr
  have hmem : r ∈ chain := List.mem_of_mem_drop (h.kept_eq ▸ hr)
  have hstored := stored_eq_seal _ h.linked r hmem
  change r.receiptHash = sha.digest _ at hstored
  rw [hstored]
  exact sha.isPresent_digest _

/-- A run keeps the newest part of the chain of all receipts handed out. -/
theorem runAppends_retains {S : Type} (receiptsOf : S → List SealedReceipt) {cap : ℕ}
    (hcap : 1 ≤ cap) (append : S → AppendCall → Except String (S × ExecutionReceipt))
    (happend : ∀ s s' call receipt, (∀ r ∈ receiptsOf s, isPresent r.receiptHash = true) →
      append s call = .ok (s', receipt) →
        receipt.toSealedReceipt = sealReceipt sha (buildBaseReceipt sha locale call.input
          (((receiptsOf s).getLast?.map (·.receiptHash)).getD genesis)) ∧
        receiptsOf s' = retainLast cap (receiptsOf s ++ [receipt.toSealedReceipt]))
    (calls : List AppendCall) : ∀ (s : S) (chain : List SealedReceipt),
      Retains sha cap chain (receiptsOf s) →
        Retains sha cap
          (chain ++ (runAppends append s calls).2.map ExecutionReceipt.toSealedReceipt)
          (receiptsOf (runAppends append s calls).1) := by
  induction calls with
  | nil => intro s chain h; simpa [runAppends] using h
  | cons call calls ih =>
      intro s chain h
      cases hcall : append s call with
      | error message => simpa only [runAppends, hcall] using ih s chain h
      | ok result =>
          obtain ⟨s', receipt⟩ := result
          obtain ⟨hseal, hkept⟩ := happend s s' call receipt h.present hcall
          have hstep := h.append sha hcap (buildBaseReceipt sha locale call.input
            (((receiptsOf s).getLast?.map (·.receiptHash)).getD genesis)) rfl
          rw [← hseal, ← hkept] at hstep
          simpa only [runAppends, hcall, List.map_cons, List.append_assoc, List.singleton_append]
            using ih s' _ hstep

lemma retains_nil (cap : ℕ) : Retains sha cap [] [] :=
  ⟨trivial, by simp [retainLast]⟩

theorem runJson_retains {cap : ℕ} (hcap : 1 ≤ cap) (calls : List AppendCall) :
    Retains sha cap
      ((runAppends (appendApprovedActionReceipt sha locale cap) none calls).2.map
        ExecutionReceipt.toSealedReceipt)
      (fileReceipts sha locale
        (runAppends (appendApprovedActionReceipt sha locale cap) none calls).1) :=
  runAppends_retains sha locale (fileReceipts sha locale) hcap _
    (fun _ _ _ _ _ h => append_json_ok sha locale h) calls none [] (retains_nil sha cap)

theorem runSqlite_retains {cap : ℕ} (hcap : 1 ≤ cap) (calls : List AppendCall) :
    Retains sha cap
      ((runAppends (appendApprovedActionReceiptSqlite sha locale cap) [] calls).2.map
        ExecutionReceipt.toSealedReceipt)
      (tableReceipts
        (runAppends (appendApprovedActionReceiptSqlite sha locale cap) [] calls).1) :=
  runAppends_retains sha locale tableReceipts hcap _
    (fun _ _ _ _ hpresent h => append_sqlite_ok sha locale hpresent h) calls [] []
    (retains_nil sha cap)

/-! ## Retention -/

variable {sha} in
/-- What is kept of a chain verifies exactly when it is the whole chain. -/
theorem Retains.linked_iff {cap : ℕ} (hcap : 1 ≤ cap) {chain kept : List SealedReceipt}
    (h : Retains sha cap chain kept) :
    Linked (receiptView sha) genesis kept ↔ chain.length ≤ cap := by
  have hne : ∀ r, (receiptView sha).sealOf r ≠ genesis := fun r => sha.digest_ne_genesis _
  rw [h.kept_eq, retainLast, linked_drop_iff _ hne h.linked]
  omega

def isApproved (call : AppendCall) : Bool :=
  call.input.actionResult.approved

lemma runJson_length (cap : ℕ) (calls : List AppendCall) (file : ReceiptFile) :
    (runAppends (appendApprovedActionReceipt sha locale cap) file calls).2.length =
      calls.countP isApproved := by
  induction calls generalizing file with
  | nil => rfl
  | cons call calls ih =>
      cases happroved : call.input.actionResult.approved with
      | false => simp [runAppends, appendApprovedActionReceipt, happroved, isApproved, ih]
      | true => simp [runAppends, appendApprovedActionReceipt, happroved, isApproved, ih]

/-- With fresh ids every approved call is accepted. -/
lemma runSqlite_length (cap : ℕ) (calls : List AppendCall) : ∀ (table : ReceiptTable),
    (calls.map (·.stamp.id)).Nodup → (∀ row ∈ table, row.id ∉ calls.map (·.stamp.id)) →
      (runAppends (appendApprovedActionReceiptSqlite sha locale cap) table calls).2.length =
        calls.countP isApproved := by
  induction calls with
  | nil => intro _ _ _; rfl
  | cons call calls ih =>
      intro table hids hfresh
      rw [List.map_cons, List.nodup_cons] at hids
      cases happroved : call.input.actionResult.approved with
      | false =>
          have hrest := ih table hids.2 fun row hrow hmem => hfresh row hrow (by simp [hmem])
          simp [runAppends, appendApprovedActionReceiptSqlite, happroved, isApproved, hrest]
      | true =>
          have hany : (table.any fun row => row.id == call.stamp.id) = false := by
            rw [List.any_eq_false]
            intro row hrow heq
            exact hfresh row hrow (by simp [beq_iff_eq.mp heq])
          have hkept (row : SqliteExecutionReceiptRow) (rows : ReceiptTable)
              (hrow : row ∈ retainLast cap rows) : row ∈ rows := List.mem_of_mem_drop hrow
          simp only [runAppends, appendApprovedActionReceiptSqlite, happroved, Bool.not_true,
            Bool.false_eq_true, if_false, hany, List.length_cons]
          rw [ih _ hids.2, List.countP_cons_of_pos (p := isApproved) happroved]
          intro row hrow
          rcases List.mem_append.mp (hkept row _ hrow) with hrow | hrow
          · exact fun hmem => hfresh row hrow (by simp [hmem])
          · rw [List.mem_singleton.mp hrow]
            exact hids.1

theorem verifyChain_json_iff {cap : ℕ} (hcap : 1 ≤ cap) (calls : List AppendCall)
    (mint : ℕ → Stamp) :
    (verifyChain sha (load sha locale mint
      (runAppends (appendApprovedActionReceipt sha locale cap) none calls).1)).valid = true ↔
      calls.countP isApproved ≤ cap := by
  rw [verifyChain_valid_iff, load_sealed,
    (runJson_retains sha locale hcap calls).linked_iff hcap, List.length_map, runJson_length]

theorem verifyChain_sqlite_iff {cap : ℕ} (hcap : 1 ≤ cap) (calls : List AppendCall)
    (hids : (calls.map (·.stamp.id)).Nodup) :
    (verifyChain sha (readSqliteDocument
      (runAppends (appendApprovedActionReceiptSqlite sha locale cap) [] calls).1)).valid = true ↔
      calls.countP isApproved ≤ cap := by
  rw [verifyChain_valid_iff, ← tableReceipts,
    (runSqlite_retains sha locale hcap calls).linked_iff hcap, List.length_map,
    runSqlite_length sha locale cap calls [] hids (by simp)]

/-! ## Sample calls -/

def sampleOutputDigest : String :=
  "e3b0c44298fc1c149afbf4c8996fb92427ae41e4649b934ca495991b7852b855"

def sampleVoteDigest : String :=
  "0c314ed4bd77eab97b89b6a88a7c6b5ef550e80df782df8dc816a488bc85ea13"

def sampleMetadataDigest : String :=
  "44136fa355b3678a1146ad16f7e8649e94fb4fc21fe77e8310c060f61caaff8a"

/-- The unsealed sample receipt over a prior digest. -/
def sampleBase (priorReceiptHash : String) : BaseReceipt where
  taskId := "task_1"
  planTaskId := "task_1"
  proposalId := none
  actionId := "action_1"
  actionType := "respond"
  approved := true
  outputDigest := sampleOutputDigest
  voteDigest := sampleVoteDigest
  metadataDigest := sampleMetadataDigest
  principalAccess := none
  priorReceiptHash := priorReceiptHash

def sampleFirstHash : String :=
  "46e4b8c50da0b17217d95ab7f92bdf59918f9759a7c6d2dfda3ac274b7769e8e"

def sampleSecondHash : String :=
  "054449dcc3b491f7ede9c5fac00b59105aa7824c7092d7c65ce902cc33e9d9da"

/-- The digests of the texts that two sample appends hash. -/
def sampleDigests : List (String × String) :=
  [("", sampleOutputDigest),
    ("\x7b\"blockedBy\":[],\"votes\":[],\"decision\":null\x7d", sampleVoteDigest),
    ("\x7b\x7d", sampleMetadataDigest),
    (toReceiptPayload (sampleBase genesis), sampleFirstHash),
    (toReceiptPayload (sampleBase sampleFirstHash), sampleSecondHash)]

lemma validTable_sampleDigests : ValidTable sampleDigests :=
  ((((validTable_nil.cons (by decide) (by decide)).cons (by decide) (by decide)).cons
    (by decide) (by decide)).cons (by decide) (by decide)).cons (by decide) (by decide)

def sampleSha : Sha256 :=
  Sha256.ofTable sampleDigests validTable_sampleDigests

lemma sampleSha_injective : Function.Injective sampleSha.digest :=
  tabledDigest_injective validTable_sampleDigests

def sampleResult : ActionRunResult where
  action := { id := "action_1", type := .respond, description := "Answer the user."
              params := JsonObject.empty, estimatedCostUsd := 0 }
  mode := .fastPath
  approved := true
  output := none
  executionStatus := none
  executionFailureCode := none
  executionMetadata := none
  blockedBy := []
  violations := []
  votes := []
  decision := none

def sampleStamp (id : String) : Stamp where
  id := id
  recordedAt := "2026-01-01T00:00:00.000Z"

def sampleCall (id : String) : AppendCall where
  input := { taskId := "task_1", planTaskId := "task_1", proposalId := none,
             actionResult := sampleResult, principalAccess := none }
  stamp := sampleStamp id
  mint _ := sampleStamp "execution_receipt_0"

def sampleCalls : List AppendCall :=
  [sampleCall "execution_receipt_1", sampleCall "execution_receipt_2"]

/-- On either backend, verification after a run of appends succeeds exactly when the run
held no more approved results than the store retains. -/
theorem verifyChain_after_appends (cap : ℕ) (hcap : 1 ≤ cap) (calls : List AppendCall)
    (hids : (calls.map (·.stamp.id)).Nodup) (mint : ℕ → Stamp) :
    ((verifyChain sha (load sha locale mint
        (runAppends (appendApprovedActionReceipt sha locale cap) none calls).1)).valid = true ↔
          calls.countP isApproved ≤ cap) ∧
      ((verifyChain sha (readSqliteDocument
        (runAppends (appendApprovedActionReceiptSqlite sha locale cap) [] calls).1)).valid = true ↔
          calls.countP isApproved ≤ cap) :=
  ⟨verifyChain_json_iff sha locale hcap calls mint,
    verifyChain_sqlite_iff sha locale hcap calls hids⟩

theorem verifyChain_after_two_appends :
    ((verifyChain sampleSha (load sampleSha codeUnitOrder (fun _ => sampleStamp "execution_receipt_0")
        (runAppends (appendApprovedActionReceipt sampleSha codeUnitOrder 2) none
          sampleCalls).1)).valid = true ↔ sampleCalls.countP isApproved ≤ 2) ∧
      ((verifyChain sampleSha (readSqliteDocument
        (runAppends (appendApprovedActionReceiptSqlite sampleSha codeUnitOrder 2) []
          sampleCalls).1)).valid = true ↔ sampleCalls.countP isApproved ≤ 2) :=
  verifyChain_after_appends sampleSha codeUnitOrder 2 (by decide) sampleCalls (by decide) _

/-- A store that retains one receipt does not verify after two appends. -/
theorem second_append_breaks_verification :
    (verifyChain sampleSha (load sampleSha codeUnitOrder (fun _ => sampleStamp "execution_receipt_0")
        (runAppends (appendApprovedActionReceipt sampleSha codeUnitOrder 1) none
          sampleCalls).1)).valid = false ∧
      (verifyChain sampleSha (readSqliteDocument
        (runAppends (appendApprovedActionReceiptSqlite sampleSha codeUnitOrder 1) []
          sampleCalls).1)).valid = false := by
  constructor
  · rw [Bool.eq_false_iff, ne_eq, verifyChain_json_iff _ _ le_rfl]
    decide
  · rw [Bool.eq_false_iff, ne_eq, verifyChain_sqlite_iff _ _ le_rfl _ (by decide)]
    decide

/-! ## Tamper evidence -/

/-- Under an injective digest a receipt hash determines all hashed fields, the prior hash
among them. -/
theorem receiptView_committing (hinj : Function.Injective sha.digest) :
    Committing (receiptView sha) genesis where
  seal_ne_genesis _ := sha.digest_ne_genesis _
  prior_of_seal r s h := by
    have hbase : r.toBaseReceipt = s.toBaseReceipt := toReceiptPayload_injective (hinj h)
    change r.toBaseReceipt.priorReceiptHash = s.toBaseReceipt.priorReceiptHash
    rw [hbase]

/-- A stored item with one of its fields set to another value. -/
def setField (key : String) (value : Json) : Json → Json
  | .obj raw => .obj (JsonObject.setMember key value raw)
  | item => item

def isObject : Json → Bool
  | .obj _ => true
  | _ => false

/-- The edits of the items of a stored document: the value of one field of one receipt, as
far as the loaded receipt differs outside `id` and `recordedAt`; a receipt that is not the
last one removed, or put in before the end; another order. -/
inductive Tampered : List Json → List Json → Prop where
  | field (a b : List Json) (item : Json) (key : String) (value : Json)
      (changed : sealedItem sha locale (setField key value item) ≠ sealedItem sha locale item) :
      Tampered (a ++ item :: b) (a ++ setField key value item :: b)
  | remove (a b : List Json) (item : Json) (notLast : b ≠ []) :
      Tampered (a ++ item :: b) (a ++ b)
  | insert (a b : List Json) (item : Json) (object : isObject item = true) (notLast : b ≠ []) :
      Tampered (a ++ b) (a ++ item :: b)
  | permute (items items' : List Json) (perm : items.Perm items') (moved : items ≠ items') :
      Tampered items items'

lemma coerceSealed_setMember (key : String) (value : Json) (raw : List (String × Json)) :
    (coerceSealed sha locale (JsonObject.setMember key value raw)).receiptHash =
        (coerceSealed sha locale raw).receiptHash ∨
      (coerceSealed sha locale (JsonObject.setMember key value raw)).toBaseReceipt =
        (coerceSealed sha locale raw).toBaseReceipt := by
  by_cases hkey : key = "receiptHash"
  · subst hkey
    right
    simp [coerceSealed, JsonObject.lookup_setMember]
  · left
    have hne : ¬ "receiptHash" = key := fun h => hkey h.symm
    simp [coerceSealed, JsonObject.lookup_setMember, hne]

/-- Setting one field of one receipt of a linked document breaks the chain. -/
lemma not_linked_field (hinj : Function.Injective sha.digest) {a b : List SealedReceipt}
    {key : String} {value : Json} {raw : List (String × Json)}
    (h : Linked (receiptView sha) genesis (a ++ coerceSealed sha locale raw :: b))
    (hchanged : coerceSealed sha locale (JsonObject.setMember key value raw) ≠
      coerceSealed sha locale raw) :
    ¬ Linked (receiptView sha) genesis
      (a ++ coerceSealed sha locale (JsonObject.setMember key value raw) :: b) := by
  intro h'
  have hstored := stored_eq_seal _ h _ (List.mem_append_right a (List.mem_cons_self ..))
  have hstored' := stored_eq_seal _ h' _ (List.mem_append_right a (List.mem_cons_self ..))
  have hhash : (coerceSealed sha locale (JsonObject.setMember key value raw)).receiptHash =
      (coerceSealed sha locale raw).receiptHash := by
    rcases coerceSealed_setMember sha locale key value raw with hhash | hbase
    · exact hhash
    · calc
        _ = sha.digest (toReceiptPayload
              (coerceSealed sha locale (JsonObject.setMember key value raw)).toBaseReceipt) :=
            hstored'
        _ = sha.digest (toReceiptPayload (coerceSealed sha locale raw).toBaseReceipt) := by
            rw [hbase]
        _ = _ := hstored.symm
  obtain ⟨-, hseal⟩ := seal_eq_of_replace h h' (Or.inl hhash.symm)
  have hbase := toReceiptPayload_injective (hinj hseal)
  refine hchanged ?_
  generalize coerceSealed sha locale (JsonObject.setMember key value raw) = edited at *
  generalize coerceSealed sha locale raw = original at *
  cases edited
  cases original
  simp_all

lemma filterMap_objects {items : List Json} (hobjects : ∀ item ∈ items, isObject item = true) :
    items.filterMap (sealedItem sha locale) =
      items.map fun item => coerceSealed sha locale (readRecord (some item)) := by
  rw [← List.filterMap_eq_map]
  refine List.filterMap_congr fun item hitem => ?_
  have hobject := hobjects item hitem
  cases item with
  | obj raw => rfl
  | _ => exact absurd hobject (by simp [isObject])

/-- The items of a linked document are linked in one order only. -/
lemma items_perm_eq (hinj : Function.Injective sha.digest) {items items' : List Json}
    (hperm : items.Perm items') (hobjects : ∀ item ∈ items, isObject item = true)
    (h : Linked (receiptView sha) genesis (items.filterMap (sealedItem sha locale)))
    (h' : Linked (receiptView sha) genesis (items'.filterMap (sealedItem sha locale))) :
    items = items' := by
  have hobjects' : ∀ item ∈ items', isObject item = true :=
    fun item hitem => hobjects item (hperm.mem_iff.mpr hitem)
  have hcommit := receiptView_committing sha hinj
  have hsame := perm_eq_of_linked hcommit h h' (hperm.filterMap _)
  have hnodup := (links_nodup hcommit _ h).of_cons
  rw [filterMap_objects sha locale hobjects] at hsame hnodup
  rw [filterMap_objects sha locale hobjects'] at hsame
  have hinjOn := List.inj_on_of_nodup_map (List.Nodup.of_map _ hnodup)
  refine List.ext_getElem hperm.length_eq fun i hi hi' => ?_
  refine hinjOn (List.getElem_mem hi) (hperm.mem_iff.mpr (List.getElem_mem hi')) ?_
  have hget := List.getElem_of_eq hsame (by simpa using hi)
  simpa only [List.getElem_map] using hget

/-- No edit of a linked document of receipts leaves it linked. -/
theorem Tampered.not_linked (hinj : Function.Injective sha.digest) {items tampered : List Json}
    (htampered : Tampered sha locale items tampered)
    (hobjects : ∀ item ∈ items, isObject item = true)
    (h : Linked (receiptView sha) genesis (items.filterMap (sealedItem sha locale))) :
    ¬ Linked (receiptView sha) genesis (tampered.filterMap (sealedItem sha locale)) := by
  have hcommit := receiptView_committing sha hinj
  have hkept {b : List Json} (hb : b ≠ []) (hobj : ∀ item ∈ b, isObject item = true) :
      b.filterMap (sealedItem sha locale) ≠ [] := by
    rw [filterMap_objects sha locale hobj]
    simpa using hb
  cases htampered with
  | field a b item key value changed =>
      have hitem := hobjects item (by simp)
      cases item with
      | obj raw =>
          simp only [List.filterMap_append, List.filterMap_cons, sealedItem, setField] at h ⊢
          exact not_linked_field sha locale hinj h (by simpa [sealedItem, setField] using changed)
      | _ => exact absurd hitem (by simp [isObject])
  | remove a b item notLast =>
      have hitem := hobjects item (by simp)
      cases item with
      | obj raw =>
          simp only [List.filterMap_append, List.filterMap_cons, sealedItem] at h ⊢
          exact not_linked_remove hcommit
            (hkept notLast fun item hmem => hobjects item (by simp [hmem])) h
      | _ => exact absurd hitem (by simp [isObject])
  | insert a b item object notLast =>
      intro h'
      cases item with
      | obj raw =>
          simp only [List.filterMap_append, List.filterMap_cons, sealedItem] at h h'
          exact not_linked_remove hcommit
            (hkept notLast fun item hmem => hobjects item (by simp [hmem])) h' h
      | _ => exact absurd object (by simp [isObject])
  | permute _ _ perm moved =>
      exact fun h' => moved (items_perm_eq sha locale hinj perm hobjects h h')

lemma runAppends_invariant {S : Type} {P : S → Prop}
    {append : S → AppendCall → Except String (S × ExecutionReceipt)}
    (hstep : ∀ s s' call receipt, append s call = .ok (s', receipt) → P s')
    (calls : List AppendCall) (s : S) (hs : P s) : P (runAppends append s calls).1 := by
  induction calls generalizing s with
  | nil => exact hs
  | cons call calls ih =>
      cases hcall : append s call with
      | error message => simpa only [runAppends, hcall] using ih s hs
      | ok result => simpa only [runAppends, hcall] using ih _ (hstep s _ call _ hcall)

lemma storedItems_objects (cap : ℕ) (calls : List AppendCall) :
    ∀ item ∈ storedItems (runAppends (appendApprovedActionReceipt sha locale cap) none calls).1,
      isObject item = true := by
  refine runAppends_invariant (P := fun file => ∀ item ∈ storedItems file, isObject item = true)
    ?_ calls none (by simp [storedItems])
  intro file file' call receipt h item hitem
  simp only [appendApprovedActionReceipt] at h
  split at h
  · cases h
  · obtain ⟨rfl, rfl⟩ := Prod.mk.inj (Except.ok.inj h)
    obtain ⟨r, -, rfl⟩ := List.mem_map.mp hitem
    rfl

/-- Below the retention cap, every edit of a stored document that changes what is loaded
outside `id` and `recordedAt` is reported. -/
theorem tampering_reported (hinj : Function.Injective sha.digest) (cap : ℕ) (hcap : 1 ≤ cap)
    (calls : List AppendCall) (hbelow : calls.countP isApproved ≤ cap) (tampered : List Json)
    (htampered : Tampered sha locale (storedItems
      (runAppends (appendApprovedActionReceipt sha locale cap) none calls).1) tampered)
    (mint : ℕ → Stamp) :
    (verifyChain sha (load sha locale mint (some (documentJson tampered)))).mismatchIndices ≠ []
      := by
  have hretains := runJson_retains sha locale hcap calls
  have hlinked := (hretains.linked_iff hcap).mpr
    (by rw [List.length_map, runJson_length]; exact hbelow)
  rw [ne_eq, verifyChain_mismatches_eq_nil, verifyChain_valid_iff, load_sealed]
  exact htampered.not_linked sha locale hinj (storedItems_objects sha locale cap calls) hlinked

lemma storedItems_length (calls : List AppendCall) {cap : ℕ} (hcap : 1 ≤ cap)
    (hbelow : calls.countP isApproved ≤ cap) :
    calls.countP isApproved ≤ (storedItems
      (runAppends (appendApprovedActionReceipt sha locale cap) none calls).1).length := by
  have hkept := (runJson_retains sha locale hcap calls).kept_eq
  have hlen := congrArg List.length hkept
  rw [retainLast, List.length_drop, List.length_map, runJson_length, fileReceipts] at hlen
  have hle := List.length_filterMap_le (sealedItem sha locale) (storedItems
    (runAppends (appendApprovedActionReceipt sha locale cap) none calls).1)
  omega

theorem removal_reported : ∃ item rest,
    storedItems (runAppends (appendApprovedActionReceipt sampleSha codeUnitOrder 2) none
      sampleCalls).1 = item :: rest ∧
    (verifyChain sampleSha (load sampleSha codeUnitOrder
      (fun _ => sampleStamp "execution_receipt_0") (some (documentJson rest)))).mismatchIndices ≠
        [] := by
  have hlen : 2 ≤ _ := storedItems_length sampleSha codeUnitOrder sampleCalls
    (show 1 ≤ 2 by decide) (by decide)
  obtain ⟨item, rest, hitems⟩ :=
    List.exists_cons_of_length_pos (Nat.lt_of_lt_of_le (by decide) hlen)
  have hrest : rest ≠ [] := by
    rintro rfl
    simp [hitems] at hlen
  refine ⟨item, rest, hitems, ?_⟩
  refine tampering_reported sampleSha codeUnitOrder sampleSha_injective 2 (by decide) sampleCalls
    (by decide) rest ?_ _
  rw [hitems]
  exact Tampered.remove [] rest item hrest

/-- Neither the id nor the time of an item reaches the sealed receipt. -/
lemma sealedItem_setField_stamp {key : String} (hkey : key = "id" ∨ key = "recordedAt")
    (value item : Json) :
    sealedItem sha locale (setField key value item) = sealedItem sha locale item := by
  cases item with
  | obj raw =>
      rcases hkey with rfl | rfl <;>
        simp [sealedItem, setField, coerceSealed, JsonObject.lookup_setMember]
  | _ => rfl

/-- The `id` of a receipt is not hashed: forging it goes unnoticed. -/
theorem forged_id_not_reported : Function.Injective sampleSha.digest ∧ ∃ raw,
    storedItems (runAppends (appendApprovedActionReceipt sampleSha codeUnitOrder 2) none
      [sampleCall "execution_receipt_1"]).1 = [.obj raw] ∧
    raw.lookup "id" = some (.str "execution_receipt_1") ∧
    (verifyChain sampleSha (load sampleSha codeUnitOrder
      (fun _ => sampleStamp "execution_receipt_0")
      (some (documentJson [setField "id" (.str "forged") (.obj raw)])))).mismatchIndices = [] := by
  obtain ⟨raw, hitems, hid⟩ : ∃ raw,
      storedItems (runAppends (appendApprovedActionReceipt sampleSha codeUnitOrder 2) none
        [sampleCall "execution_receipt_1"]).1 = [.obj raw] ∧
      raw.lookup "id" = some (.str "execution_receipt_1") := ⟨_, rfl, rfl⟩
  have hretains := runJson_retains sampleSha codeUnitOrder (show 1 ≤ 2 by decide)
    [sampleCall "execution_receipt_1"]
  have hlinked := (hretains.linked_iff (by decide)).mpr (by decide)
  rw [fileReceipts, hitems] at hlinked
  refine ⟨sampleSha_injective, raw, hitems, hid, ?_⟩
  rw [verifyChain_mismatches_eq_nil, verifyChain_valid_iff, load_sealed]
  change Linked _ _ ([setField "id" (.str "forged") (.obj raw)].filterMap _)
  rw [List.filterMap_cons, sealedItem_setField_stamp _ _ (Or.inl rfl), ← List.filterMap_cons]
  exact hlinked

end AgentBigBrain.Core

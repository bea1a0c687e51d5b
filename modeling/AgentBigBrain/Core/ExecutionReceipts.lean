import AgentBigBrain.Core.Canonicalization
import AgentBigBrain.Core.Sha256
import AgentBigBrain.Core.Types
import AgentBigBrain.Lib.HashChain

/-!
# Execution receipts

The receipt ledger of approved actions with its two backends. Each receipt is sealed by
a digest of its payload, which names the digest of the receipt before it. The JSON
backend reloads a document through a coercion that fills defaults for malformed values;
the SQLite backend keeps one row per receipt. Both keep the newest receipts only.
-/
namespace AgentBigBrain.Core

open Js HashChain

def genesis : String := "GENESIS"

lemma Sha256.digest_ne_genesis (sha : Sha256) (s : String) : sha.digest s ≠ genesis :=
  sha.digest_ne_of_char (t := genesis) (c := 'G') (by decide) (by decide) s

/-! ## Receipts -/

/-- The fields that are hashed. -/
structure BaseReceipt where
  taskId : String
  planTaskId : String
  proposalId : Option String
  actionId : String
  actionType : String
  approved : Bool
  outputDigest : String
  voteDigest : String
  metadataDigest : String
  principalAccess : Option PrincipalAccessAuditMetadata
  priorReceiptHash : String
  deriving DecidableEq

structure SealedReceipt extends BaseReceipt where
  receiptHash : String
  deriving DecidableEq

/-- What `makeId` and the clock give a receipt. -/
structure Stamp where
  id : String
  recordedAt : String
  deriving DecidableEq

structure ExecutionReceipt extends SealedReceipt, Stamp
  deriving DecidableEq

def jsonOfOption : Option String → Json
  | none => .null
  | some s => .str s

def metadataJson (m : PrincipalAccessAuditMetadata) : Json :=
  .obj [("principalRole", jsonOfOption m.principalRole),
    ("accessOperation", jsonOfOption m.accessOperation),
    ("accessClass", jsonOfOption m.accessClass),
    ("accessAllowed", match m.accessAllowed with | none => .null | some b => .bool b),
    ("accessReason", jsonOfOption m.accessReason),
    ("routeVisibility", jsonOfOption m.routeVisibility),
    ("identityAuthority", jsonOfOption m.identityAuthority),
    ("legacyIdentityState", jsonOfOption m.legacyIdentityState),
    ("ownerMatchSource", jsonOfOption m.ownerMatchSource)]

def receiptPayloadJson (receipt : BaseReceipt) : Json :=
  .obj ([("taskId", .str receipt.taskId),
    ("planTaskId", .str receipt.planTaskId),
    ("proposalId", jsonOfOption receipt.proposalId),
    ("actionId", .str receipt.actionId),
    ("actionType", .str receipt.actionType),
    ("approved", .bool receipt.approved),
    ("outputDigest", .str receipt.outputDigest),
    ("voteDigest", .str receipt.voteDigest),
    ("metadataDigest", .str receipt.metadataDigest),
    ("priorReceiptHash", .str receipt.priorReceiptHash)] ++
    match receipt.principalAccess with
    | none => []
    | some m => [("principalAccess", metadataJson m)])

def toReceiptPayload (receipt : BaseReceipt) : String :=
  receiptPayloadJson receipt |>.stringify

lemma jsonOfOption_injective {a b : Option String} (h : jsonOfOption a = jsonOfOption b) :
    a = b := by
  cases a <;> cases b <;> simp_all [jsonOfOption]

lemma metadataJson_injective {m n : PrincipalAccessAuditMetadata}
    (h : metadataJson m = metadataJson n) : m = n := by
  cases m
  cases n
  simp only [metadataJson, Json.obj.injEq, List.cons.injEq, Prod.mk.injEq, true_and,
    and_true] at h
  obtain ⟨h1, h2, h3, h4, h5, h6, h7, h8, h9⟩ := h
  simp only [PrincipalAccessAuditMetadata.mk.injEq]
  refine ⟨jsonOfOption_injective h1, jsonOfOption_injective h2, jsonOfOption_injective h3, ?_,
    jsonOfOption_injective h5, jsonOfOption_injective h6, jsonOfOption_injective h7,
    jsonOfOption_injective h8, jsonOfOption_injective h9⟩
  split at h4 <;> split at h4 <;> simp_all

/-- The payload text determines every field that is hashed. -/
theorem toReceiptPayload_injective {r s : BaseReceipt}
    (h : toReceiptPayload r = toReceiptPayload s) : r = s := by
  have hjson := Json.stringify_injective h
  cases r
  cases s
  simp only [receiptPayloadJson, Json.obj.injEq, List.cons_append, List.nil_append,
    List.cons.injEq, Prod.mk.injEq, true_and, Json.str.injEq, Json.bool.injEq] at hjson
  obtain ⟨h1, h2, h3, h4, h5, h6, h7, h8, h9, h10, h11⟩ := hjson
  have h3 := jsonOfOption_injective h3
  simp only [BaseReceipt.mk.injEq, h1, h2, h3, h4, h5, h6, h7, h8, h9, h10, true_and, and_true]
  split at h11 <;> split at h11
  · simp_all
  · simp at h11
  · simp at h11
  · simp only [List.cons.injEq, Prod.mk.injEq, true_and, and_true] at h11
    simp_all [metadataJson_injective h11]

variable (sha : Sha256) (locale : Locale)

def voteJson (vote : GovernorVote) : Json :=
  .obj ([("governorId", .str vote.governorId.text), ("approve", .bool vote.approve),
    ("reason", .str vote.reason), ("confidence", .num vote.confidence)] ++
    match vote.rejectCategory with
    | none => []
    | some c => [("rejectCategory", .str c.text)])

def decisionJson (decision : MasterDecision) : Json :=
  .obj [("approved", .bool decision.approved), ("yesVotes", .num (NumberText.ofNat decision.yesVotes)),
    ("noVotes", .num (NumberText.ofNat decision.noVotes)),
    ("threshold", .num (NumberText.ofNat decision.threshold)),
    ("dissent", .arr (decision.dissent.map voteJson))]

def buildVoteDigest (result : ActionRunResult) : String :=
  sha.digest (Json.stringify (.obj
    [("blockedBy", .arr (result.blockedBy.map fun reason => .str reason.text)),
      ("votes", .arr (result.votes.map voteJson)),
      ("decision", match result.decision with | none => .null | some d => decisionJson d)]))

def buildMetadataDigest (result : ActionRunResult) : String :=
  sha.digest (canonicalJson locale
    (.obj (match result.executionMetadata with | none => [] | some m => m.members)))

/-- A non-blank string member of an object; `null` otherwise. -/
def readString (record : List (String × Json)) (key : String) : Option String :=
  match record.lookup key with
  | some (.str s) => if isPresent s then some s else none
  | _ => none

def readRecord : Option Json → List (String × Json)
  | some (.obj members) => members
  | _ => []

def nonBlank (s : String) : Option String :=
  if isPresent s then some s else none

def buildRedactedPrincipalAccessMetadata :
    Option TaskPrincipalAccessEnvelope → Option PrincipalAccessAuditMetadata
  | none => none
  | some envelope =>
      let actor := readRecord envelope.actor
      let route := readRecord envelope.route
      some {
        principalRole := readString actor "principalRole"
        accessOperation := nonBlank envelope.accessDecision.operation
        accessClass := nonBlank envelope.accessDecision.accessClass
        accessAllowed := some envelope.accessDecision.allowed
        accessReason := nonBlank envelope.accessDecision.reason
        routeVisibility := readString route "visibility"
        identityAuthority := readString actor "identityAuthority"
        legacyIdentityState := readString actor "legacyIdentityState"
        ownerMatchSource := readString actor "ownerMatchSource" }

/-! ## Loading a JSON document -/

def stringOr (fallback : String) : Option Json → String
  | some (.str s) => s
  | _ => fallback

def stringOrNull : Option Json → Option String
  | some (.str s) => some s
  | _ => none

/-- A non-blank string, or what the runtime mints in its place. -/
def presentOr (minted : String) : Option Json → String
  | some (.str s) => if isPresent s then s else minted
  | _ => minted

def coercePrincipalAccessMetadata : Option Json → Option PrincipalAccessAuditMetadata
  | some (.obj candidate) => some {
      principalRole := stringOrNull (candidate.lookup "principalRole")
      accessOperation := stringOrNull (candidate.lookup "accessOperation")
      accessClass := stringOrNull (candidate.lookup "accessClass")
      accessAllowed :=
        match candidate.lookup "accessAllowed" with
        | some (.bool b) => some b
        | _ => none
      accessReason := stringOrNull (candidate.lookup "accessReason")
      routeVisibility := stringOrNull (candidate.lookup "routeVisibility")
      identityAuthority := stringOrNull (candidate.lookup "identityAuthority")
      legacyIdentityState := stringOrNull (candidate.lookup "legacyIdentityState")
      ownerMatchSource := stringOrNull (candidate.lookup "ownerMatchSource") }
  | _ => none

/-- The fields of a raw receipt other than `id` and `recordedAt`, with their defaults. -/
def coerceSealed (raw : List (String × Json)) : SealedReceipt where
  taskId := stringOr "unknown_task" (raw.lookup "taskId")
  planTaskId := stringOr "unknown_plan" (raw.lookup "planTaskId")
  proposalId := stringOrNull (raw.lookup "proposalId")
  actionId := stringOr "unknown_action" (raw.lookup "actionId")
  actionType := stringOr "unknown_action_type" (raw.lookup "actionType")
  approved :=
    match raw.lookup "approved" with
    | some (.bool b) => b
    | _ => false
  outputDigest := stringOr (sha.digest "") (raw.lookup "outputDigest")
  voteDigest := stringOr (sha.digest "") (raw.lookup "voteDigest")
  metadataDigest :=
    stringOr (sha.digest (canonicalJson locale (.obj []))) (raw.lookup "metadataDigest")
  principalAccess := coercePrincipalAccessMetadata (raw.lookup "principalAccess")
  priorReceiptHash := stringOr genesis (raw.lookup "priorReceiptHash")
  receiptHash := stringOr (sha.digest "") (raw.lookup "receiptHash")

def coerceReceipt (minted : Stamp) (raw : List (String × Json)) : ExecutionReceipt where
  toSealedReceipt := coerceSealed sha locale raw
  id := presentOr minted.id (raw.lookup "id")
  recordedAt := presentOr minted.recordedAt (raw.lookup "recordedAt")

/-- Items that are not objects are dropped; `mint n` stands for the `n`-th `makeId` and clock
reading. -/
def coerceItems (mint : ℕ → Stamp) (n : ℕ) : List Json → List ExecutionReceipt
  | [] => []
  | .obj raw :: items => coerceReceipt sha locale (mint n) raw :: coerceItems mint (n + 1) items
  | _ :: items => coerceItems mint n items

/-- The `receipts` array of a document; empty unless it is one. -/
def receiptItems : Json → List Json
  | .obj record =>
      match record.lookup "receipts" with
      | some (.arr items) => items
      | _ => []
  | _ => []

def coerceExecutionReceiptDocument (mint : ℕ → Stamp) (input : Json) : List ExecutionReceipt :=
  coerceItems sha locale mint 0 (receiptItems input)

/-! ## Writing a JSON document -/

def receiptJson (receipt : ExecutionReceipt) : Json :=
  .obj [("id", .str receipt.id),
    ("recordedAt", .str receipt.recordedAt),
    ("taskId", .str receipt.taskId),
    ("planTaskId", .str receipt.planTaskId),
    ("proposalId", jsonOfOption receipt.proposalId),
    ("actionId", .str receipt.actionId),
    ("actionType", .str receipt.actionType),
    ("approved", .bool receipt.approved),
    ("outputDigest", .str receipt.outputDigest),
    ("voteDigest", .str receipt.voteDigest),
    ("metadataDigest", .str receipt.metadataDigest),
    ("principalAccess",
      match receipt.principalAccess with | none => .null | some m => metadataJson m),
    ("priorReceiptHash", .str receipt.priorReceiptHash),
    ("receiptHash", .str receipt.receiptHash)]

def documentJson (items : List Json) : Json :=
  .obj [("receipts", .arr items)]

@[simp] lemma stringOrNull_jsonOfOption (x : Option String) :
    stringOrNull (some (jsonOfOption x)) = x := by
  cases x <;> rfl

lemma coercePrincipalAccessMetadata_metadataJson (m : PrincipalAccessAuditMetadata) :
    coercePrincipalAccessMetadata (some (metadataJson m)) = some m := by
  obtain ⟨_, _, _, allowed, _, _, _, _, _⟩ := m
  cases allowed <;> simp [metadataJson, coercePrincipalAccessMetadata, List.lookup_cons]

/-! ## Appending -/

structure AppendExecutionReceiptInput where
  taskId : String
  planTaskId : String
  proposalId : Option String
  actionResult : ActionRunResult
  principalAccess : Option TaskPrincipalAccessEnvelope

/-- The unsealed receipt of an approved result. -/
def buildBaseReceipt (input : AppendExecutionReceiptInput) (priorReceiptHash : String) :
    BaseReceipt where
  taskId := input.taskId
  planTaskId := input.planTaskId
  proposalId := input.proposalId
  actionId := input.actionResult.action.id
  actionType := input.actionResult.action.type.text
  approved := input.actionResult.approved
  outputDigest := sha.digest (trim (input.actionResult.output.getD ""))
  voteDigest := buildVoteDigest sha input.actionResult
  metadataDigest := buildMetadataDigest sha locale input.actionResult
  principalAccess := buildRedactedPrincipalAccessMetadata input.principalAccess
  priorReceiptHash := priorReceiptHash

def sealReceipt (base : BaseReceipt) : SealedReceipt where
  toBaseReceipt := base
  receiptHash := sha.digest (toReceiptPayload base)

/-- `xs.slice(-cap)` once `xs` is longer than `cap`. -/
def retainLast {α : Type*} (cap : ℕ) (xs : List α) : List α :=
  xs.drop (xs.length - cap)

/-- One call of `appendApprovedActionReceipt` with what the runtime mints during it. -/
structure AppendCall where
  input : AppendExecutionReceiptInput
  stamp : Stamp
  mint : ℕ → Stamp

/-- The JSON file; `none` when it is missing or unreadable. -/
abbrev ReceiptFile := Option Json

def load (mint : ℕ → Stamp) : ReceiptFile → List ExecutionReceipt
  | none => []
  | some document => coerceExecutionReceiptDocument sha locale mint document

def lastReceiptHash (receipts : List ExecutionReceipt) : String :=
  match receipts.getLast? with
  | none => genesis
  | some receipt => receipt.receiptHash

def approvedOnlyMessage : String :=
  "Execution receipts are only emitted for approved actions."

def appendApprovedActionReceipt (maxExecutionReceipts : ℕ) (file : ReceiptFile)
    (call : AppendCall) : Except String (ReceiptFile × ExecutionReceipt) :=
  if !call.input.actionResult.approved then
    .error approvedOnlyMessage
  else
    let receipts := load sha locale call.mint file
    let base := buildBaseReceipt sha locale call.input (lastReceiptHash receipts)
    let receipt : ExecutionReceipt := { toSealedReceipt := sealReceipt sha base
                                        toStamp := call.stamp }
    let kept := retainLast maxExecutionReceipts (receipts ++ [receipt])
    .ok (some (documentJson (kept.map receiptJson)), receipt)

/-! ## SQLite backend -/

/-- A row of `execution_receipts`; `principalAccessJson` is the parsed column. -/
structure SqliteExecutionReceiptRow where
  id : String
  recordedAt : String
  taskId : String
  planTaskId : String
  proposalId : Option String
  actionId : String
  actionType : String
  approved : ℕ
  outputDigest : String
  voteDigest : String
  metadataDigest : String
  principalAccessJson : Json
  priorReceiptHash : String
  receiptHash : String

def rowOfReceipt (receipt : ExecutionReceipt) : SqliteExecutionReceiptRow where
  id := receipt.id
  recordedAt := receipt.recordedAt
  taskId := receipt.taskId
  planTaskId := receipt.planTaskId
  proposalId := receipt.proposalId
  actionId := receipt.actionId
  actionType := receipt.actionType
  approved := if receipt.approved then 1 else 0
  outputDigest := receipt.outputDigest
  voteDigest := receipt.voteDigest
  metadataDigest := receipt.metadataDigest
  principalAccessJson :=
    match receipt.principalAccess with | none => .null | some m => metadataJson m
  priorReceiptHash := receipt.priorReceiptHash
  receiptHash := receipt.receiptHash

def receiptOfRow (row : SqliteExecutionReceiptRow) : ExecutionReceipt where
  id := row.id
  recordedAt := row.recordedAt
  taskId := row.taskId
  planTaskId := row.planTaskId
  proposalId := row.proposalId
  actionId := row.actionId
  actionType := row.actionType
  approved := decide (row.approved = 1)
  outputDigest := row.outputDigest
  voteDigest := row.voteDigest
  metadataDigest := row.metadataDigest
  principalAccess := coercePrincipalAccessMetadata (some row.principalAccessJson)
  priorReceiptHash := row.priorReceiptHash
  receiptHash := row.receiptHash

/-- The rows in `receipt_seq` order. -/
abbrev ReceiptTable := List SqliteExecutionReceiptRow

def readSqliteDocument (table : ReceiptTable) : List ExecutionReceipt :=
  table.map receiptOfRow

/-- The newest `receipt_hash`, unless it is blank. -/
def sqlitePriorReceiptHash (table : ReceiptTable) : String :=
  match table.getLast? with
  | none => genesis
  | some row => if isPresent row.receiptHash then row.receiptHash else genesis

def uniqueIdMessage : String :=
  "UNIQUE constraint failed: execution_receipts.id"

def appendApprovedActionReceiptSqlite (maxExecutionReceipts : ℕ) (table : ReceiptTable)
    (call : AppendCall) : Except String (ReceiptTable × ExecutionReceipt) :=
  if !call.input.actionResult.approved then
    .error approvedOnlyMessage
  else
    let base := buildBaseReceipt sha locale call.input (sqlitePriorReceiptHash table)
    let receipt : ExecutionReceipt := { toSealedReceipt := sealReceipt sha base
                                        toStamp := call.stamp }
    if table.any fun row => row.id == receipt.id then
      .error uniqueIdMessage
    else
      .ok (retainLast maxExecutionReceipts (table ++ [rowOfReceipt receipt]), receipt)

@[simp] theorem receiptOfRow_rowOfReceipt (receipt : ExecutionReceipt) :
    receiptOfRow (rowOfReceipt receipt) = receipt := by
  obtain ⟨⟨⟨_, _, _, _, _, approved, _, _, _, access, _⟩, _⟩, ⟨_, _⟩⟩ := receipt
  cases approved <;> cases access <;>
    simp [receiptOfRow, rowOfReceipt, coercePrincipalAccessMetadata_metadataJson] <;> rfl

/-! ## Verification -/

structure ExecutionReceiptVerificationResult where
  valid : Bool
  mismatchIndices : List ℕ

/-- How `verifyChain` reads a receipt. -/
def receiptView : ChainView SealedReceipt String where
  prior receipt := receipt.priorReceiptHash
  stored receipt := receipt.receiptHash
  sealOf receipt := sha.digest (toReceiptPayload receipt.toBaseReceipt)

def verifyChain (receipts : List ExecutionReceipt) : ExecutionReceiptVerificationResult :=
  let mismatchIndices :=
    mismatchesFrom ((receiptView sha).comap ExecutionReceipt.toSealedReceipt) 0 genesis receipts
  { valid := mismatchIndices.isEmpty, mismatchIndices := mismatchIndices }

/-- A document verifies when its sealed parts are linked from `GENESIS`. -/
theorem verifyChain_valid_iff (receipts : List ExecutionReceipt) :
    (verifyChain sha receipts).valid = true ↔
      Linked (receiptView sha) genesis (receipts.map ExecutionReceipt.toSealedReceipt) := by
  rw [← linked_comap, ← mismatchesFrom_eq_nil_iff _ 0, verifyChain, List.isEmpty_iff]

lemma verifyChain_mismatches_eq_nil (receipts : List ExecutionReceipt) :
    (verifyChain sha receipts).mismatchIndices = [] ↔ (verifyChain sha receipts).valid = true := by
  simp [verifyChain]

end AgentBigBrain.Core

import AgentBigBrain.Core.ApprovalPolicy
import AgentBigBrain.Orchestration.TaskRunnerSummary

/-!
# Network-write preflight

The checks of a `network_write` action before the vote: target, connector operation,
freshness of what was read, egress policy, and a use of a registered approval grant.
The diff that the grant is matched against is the canonical JSON of endpoint, method and
payload, unless the parameters bring a diff text of their own.
-/
namespace AgentBigBrain.Orchestration

open AgentBigBrain.Js AgentBigBrain.Core

variable (sha : Sha256) (host : Host)

/-! ## Policies -/

/-- The reason for which egress to a URL is denied. -/
def evaluateEgressPolicy (targetUrl : String) : Option String :=
  match host.parseUrl targetUrl with
  | none => some "Target URL is invalid."
  | some parts =>
      let hostname := host.toLowerCase parts.hostname
      if hostname = "localhost" ∨ hostname = "::1" then
        some "Localhost egress is denied."
      else if startsWith hostname "127." || startsWith hostname "10." ||
          startsWith hostname "169.254." || startsWith hostname "192.168." then
        some "Private-range IPv4 egress is denied."
      else if endsWith hostname ".local" then
        some ".local egress is denied by default."
      else if includes hostname "metadata" then
        some "Metadata endpoint egress is denied."
      else
        none

inductive ConnectorOperation where
  | read
  | watch
  | draft
  | propose
  | write
  | update
  | delete
  deriving DecidableEq, Repr

def ConnectorOperation.text : ConnectorOperation → String
  | .read => "read"
  | .watch => "watch"
  | .draft => "draft"
  | .propose => "propose"
  | .write => "write"
  | .update => "update"
  | .delete => "delete"

def normalizeConnectorOperation (rawOperation : String) : Option ConnectorOperation :=
  [ConnectorOperation.read, .watch, .draft, .propose, .write, .update, .delete].find?
    fun operation => operation.text == rawOperation

/-- The reason for which a connector operation is out of scope. -/
def validateConnectorOperation (operation : ConnectorOperation) : Option String :=
  if operation = .update ∨ operation = .delete then
    some ("Connector operation '" ++ operation.text ++ "' is out of scope for Stage 6.75.")
  else
    none

inductive Connector where
  | gmail
  | calendar
  deriving DecidableEq, Repr

def normalizeConnector : Option String → Option Connector
  | some "gmail" => some .gmail
  | some "calendar" => some .calendar
  | _ => none

/-- Freshness of the last read, and absence of an open conflict. -/
def evaluateConsistencyPreflight (now : ClockReading host) (lastReadAtIso : Option String)
    (freshnessWindowMs : ℤ) (unresolvedConflict : Bool) : Option ConstraintViolation :=
  if unresolvedConflict then
    some ⟨.conflictObjectUnresolved,
      "Write path blocked because conflict object is unresolved."⟩
  else
    match lastReadAtIso with
    | none =>
        some ⟨.stateStaleReplanRequired, "Write path requires a fresh read before execution."⟩
    | some lastRead =>
        match host.dateParse lastRead with
        | none =>
            some ⟨.stateStaleReplanRequired,
              "Invalid watermark timestamps prevent deterministic freshness evaluation."⟩
        | some lastReadMs =>
            if freshnessWindowMs < now.ms - lastReadMs then
              some ⟨.stateStaleReplanRequired,
                "Read watermark is stale and requires deterministic re-read."⟩
            else
              none

/-! ## Preflight -/

structure TaskRunnerConnectorReceiptSeed where
  connector : Connector
  operation : ConnectorOperation
  requestPayload : Json
  responseEndpoint : String
  externalIds : List String

/-- What a preflight returns: a proposal for the vote, or a blocked result. -/
structure EvaluateTaskRunnerPreflightResult where
  approvalGrant : Option (String × ApprovalGrant)
  blockedResult : Option ActionRunResult
  connectorReceiptInput : Option TaskRunnerConnectorReceiptSeed
  proposal : Option GovernanceProposal

def preflightBlocked (proposal : Option GovernanceProposal) (result : ActionRunResult) :
    EvaluateTaskRunnerPreflightResult where
  approvalGrant := none
  blockedResult := some result
  connectorReceiptInput := none
  proposal := proposal

/-- `approvalGrantById`. -/
abbrev ApprovalGrants := String → Option ApprovalGrant

structure NetworkWritePreflightInput (host : Host) where
  action : PlannedAction
  approvalGrantById : ApprovalGrants
  idempotencyKey : String
  mode : ExecutionMode
  now : ClockReading host
  /-- Five minutes from now, as the text of a date. -/
  defaultExpiresAt : String
  proposal : GovernanceProposal
  missionId : String

/-- A positive number of the parameters, rounded down. -/
def positiveFloor : Option Json → Option ℤ
  | some (.num n) => if 0 < n.value then some ⌊n.value⌋ else none
  | _ => none

/-- The non-blank strings of an array; empty for anything else. -/
def optionalStrings : Option Json → List String
  | some (.arr values) => values.filterMap fun x => normalizeOptionalString (some x)
  | _ => []

def isTrue : Option Json → Bool
  | some (.bool true) => true
  | _ => false

def isConflictObject : Option Json → Bool
  | some (.obj _) => true
  | _ => false

/-- The target of the action. -/
def networkWriteUrl (params : JsonObject) : Option String :=
  normalizeOptionalString (params.get "url") <|> normalizeOptionalString (params.get "endpoint")

/-- `{ endpoint, method, payload }`. -/
def requestJson (endpoint method : String) (payload : Json) : Json :=
  .obj [("endpoint", .str endpoint), ("method", .str method), ("payload", payload)]

def networkWriteMethod (params : JsonObject) : String :=
  (normalizeOptionalString (params.get "method")).getD "POST"

def networkWritePayload (params : JsonObject) : Json :=
  (params.get "payload").getD .null

/-- The diff text that is matched with a grant. -/
def networkApprovalDiff (params : JsonObject) (url : String) : String :=
  (normalizeOptionalString (params.get "approvalDiff")).getD
    (canonicalJson host.locale
      (requestJson url (networkWriteMethod params) (networkWritePayload params)))

/-- Owner or operator approval of the private class. -/
def validateNetworkApprovalPrincipalAccess (grant : ApprovalGrant) : Option String :=
  match grant.approverPrincipalAccess with
  | none => some "Approval grant is missing approver principal metadata."
  | some access =>
      if access.accessAllowed ≠ some true then
        some "Approval grant principal metadata was not allowed."
      else if access.accessOperation ≠ some "approval" then
        some "Approval grant principal metadata is not scoped to approval."
      else if access.principalRole ≠ some "owner" ∧ access.principalRole ≠ some "operator" then
        some "Network approval requires owner or operator approver principal."
      else if access.accessClass ≠ some "owner_private" then
        some "Network approval requires owner-private access class."
      else
        none

/-- The approval request that the parameters describe. -/
def networkApprovalScope (input : NetworkWritePreflightInput host) (url : String)
    (approvalExpiresAt : String) : ApprovalScope :=
  let params := input.action.params
  let actionIds := optionalStrings (params.get "approvalActionIds")
  let idempotencyKeys := optionalStrings (params.get "idempotencyKeys")
  { missionId := input.missionId
    actionIds := if actionIds.isEmpty then [input.action.id] else actionIds
    diff := networkApprovalDiff host params url
    riskClass :=
      match params.get "riskClass" with
      | some (.str "tier_2") => .tier2
      | _ => .tier3
    idempotencyKeys := if idempotencyKeys.isEmpty then [input.idempotencyKey] else idempotencyKeys
    expiresAt := approvalExpiresAt
    maxUses := ((positiveFloor (params.get "approvalMaxUses")).getD 1).toNat }

@[simp]
lemma networkApprovalScope_diff (input : NetworkWritePreflightInput host)
    (url approvalExpiresAt : String) :
    (networkApprovalScope host input url approvalExpiresAt).diff =
      networkApprovalDiff host input.action.params url := rfl

def missingApprovalMessage : String :=
  "A cryptographically signed JIT UI diff approval is required for side-effect egress, but " ++
    "none was provided."

/-- A blocked result, or the approval id with its grant after one more use. -/
def evaluateApprovalGrant (input : NetworkWritePreflightInput host) (url : String) :
    Except ActionRunResult (String × ApprovalGrant) :=
  let params := input.action.params
  let blocked := buildConstraintBlockedResult input.action input.mode
  match normalizeOptionalString (params.get "approvalId") with
  | none => .error (blocked .jitApprovalRequired missingApprovalMessage)
  | some approvalId =>
      let approvalExpiresAt :=
        (normalizeOptionalString (params.get "approvalExpiresAt")).getD input.defaultExpiresAt
      if (host.dateParse approvalExpiresAt).isNone then
        .error (blocked .approvalScopeMismatch "Approval expiry timestamp is invalid.")
      else
        let request := createApprovalRequest sha host
          (networkApprovalScope host input url approvalExpiresAt)
        let scopedApprovalRequest := { request with approvalId := approvalId }
        match input.approvalGrantById approvalId with
        | none => .error (blocked .approvalScopeMismatch
            ("Approval id was provided, but it is not externally registered for this action."))
        | some grant =>
            match validateApprovalGrantUse host scopedApprovalRequest grant
              { missionId := input.missionId, actionId := input.action.id,
                idempotencyKey := input.idempotencyKey, now := input.now } with
            | some violation => .error (blocked violation.code violation.message)
            | none =>
                match validateNetworkApprovalPrincipalAccess grant with
                | some reason => .error (blocked .identityImpersonationDenied reason)
                | none => .ok (approvalId, registerApprovalGrantUse grant)

def evaluateConsistencyBlock (input : NetworkWritePreflightInput host)
    (connector : Option Connector) : Option ConstraintViolation :=
  let params := input.action.params
  let lastReadAtIso := normalizeOptionalString (params.get "lastReadAtIso") <|>
    normalizeOptionalString (params.get "observedAtWatermark")
  let defaultFreshnessWindowMs := if connector = some .calendar then 2000 else 5000
  evaluateConsistencyPreflight host input.now lastReadAtIso
    ((positiveFloor (params.get "freshnessWindowMs")).getD defaultFreshnessWindowMs)
    (isConflictObject (params.get "unresolvedConflict"))

/-- The checks of the connector and of the state it was planned on. -/
def evaluateConnectorBlock (input : NetworkWritePreflightInput host) :
    Except ActionRunResult (Option Connector × Option ConnectorOperation) :=
  let params := input.action.params
  let blocked := buildConstraintBlockedResult input.action input.mode
  let connector := normalizeConnector
    ((normalizeOptionalString (params.get "connector")).map host.toLowerCase)
  let operationRaw := (normalizeOptionalString (params.get "operation")).map host.toLowerCase
  let operation := operationRaw.bind normalizeConnectorOperation
  let unsupported := match operationRaw with
    | none => none
    | some raw =>
        match operation with
        | none => some ("Unsupported connector operation '" ++ raw ++ "'.")
        | some operation => validateConnectorOperation operation
  match unsupported with
  | some reason => .error (blocked .connectorOperationNotSupportedInStage675 reason)
  | none =>
      if isTrue (params.get "requiresConsistencyPreflight") || connector.isSome then
        match evaluateConsistencyBlock host input connector with
        | some violation => .error (blocked violation.code violation.message)
        | none => .ok (connector, operation)
      else
        .ok (connector, operation)

def connectorReceiptSeed (params : JsonObject) (url : String) :
    Option Connector × Option ConnectorOperation → Option TaskRunnerConnectorReceiptSeed
  | (some connector, some operation) => some {
      connector := connector
      operation := operation
      requestPayload := networkWritePayload params
      responseEndpoint := url
      externalIds := optionalStrings (params.get "externalIds") }
  | _ => none

def evaluateTaskRunnerNetworkWritePreflight (input : NetworkWritePreflightInput host) :
    EvaluateTaskRunnerPreflightResult :=
  let blocked := fun result => preflightBlocked (some input.proposal) result
  match networkWriteUrl input.action.params with
  | none => blocked (buildConstraintBlockedResult input.action input.mode
      .networkEgressPolicyBlocked "Missing URL/endpoint in network_write action.")
  | some url =>
      match evaluateConnectorBlock host input with
      | .error result => blocked result
      | .ok connector =>
          match evaluateEgressPolicy host url with
          | some reason => blocked (buildConstraintBlockedResult input.action input.mode
              .networkEgressPolicyBlocked reason)
          | none =>
              match evaluateApprovalGrant sha host input url with
              | .error result => blocked result
              | .ok approvalGrant =>
                  { approvalGrant := some approvalGrant
                    blockedResult := none
                    connectorReceiptInput := connectorReceiptSeed input.action.params url connector
                    proposal := some input.proposal }

/-! ## What a network preflight says -/

lemma evaluateConnectorBlock_error {input : NetworkWritePreflightInput host}
    {result : ActionRunResult} (h : evaluateConnectorBlock host input = .error result) :
    Refuses input.action result := by
  simp only [evaluateConnectorBlock] at h
  repeat' split at h
  all_goals cases h <;> exact refuses_buildConstraintBlockedResult ..

lemma evaluateApprovalGrant_error {input : NetworkWritePreflightInput host} {url : String}
    {result : ActionRunResult} (h : evaluateApprovalGrant sha host input url = .error result) :
    Refuses input.action result := by
  simp only [evaluateApprovalGrant] at h
  repeat' split at h
  all_goals cases h <;> exact refuses_buildConstraintBlockedResult ..

lemma networkWritePreflight_proposal (input : NetworkWritePreflightInput host) :
    (evaluateTaskRunnerNetworkWritePreflight sha host input).proposal = some input.proposal := by
  simp only [evaluateTaskRunnerNetworkWritePreflight, preflightBlocked]
  repeat' split
  all_goals rfl

lemma networkWritePreflight_blocked {input : NetworkWritePreflightInput host}
    {result : ActionRunResult}
    (h : (evaluateTaskRunnerNetworkWritePreflight sha host input).blockedResult = some result) :
    Refuses input.action result := by
  simp only [evaluateTaskRunnerNetworkWritePreflight, preflightBlocked] at h
  split at h
  · cases h
    exact refuses_buildConstraintBlockedResult ..
  · split at h
    · obtain rfl := Option.some.inj h
      exact evaluateConnectorBlock_error host (by assumption)
    · split at h
      · cases h
        exact refuses_buildConstraintBlockedResult ..
      · split at h
        · obtain rfl := Option.some.inj h
          exact evaluateApprovalGrant_error sha host (by assumption)
        · cases h

end AgentBigBrain.Orchestration

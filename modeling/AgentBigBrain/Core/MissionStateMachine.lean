import AgentBigBrain.Core.Canonicalization
import AgentBigBrain.Core.Sha256
import AgentBigBrain.Core.Types

/-!
# Mission state

A mission attempt counts the actions it has recorded, the denied ones among them and the
bytes of their output, remembers their idempotency keys, and moves through a fixed
sequence of phases with every record.
-/
namespace AgentBigBrain.Core

open Js

inductive MissionPhase where
  | intake
  | retrieve
  | synthesize
  | build
  | verify
  | proposeWrites
  | executeWrites
  | monitor
  deriving DecidableEq, Repr

def MissionPhase.text : MissionPhase → String
  | .intake => "intake"
  | .retrieve => "retrieve"
  | .synthesize => "synthesize"
  | .build => "build"
  | .verify => "verify"
  | .proposeWrites => "propose_writes"
  | .executeWrites => "execute_writes"
  | .monitor => "monitor"

def missionPhaseSequence : List MissionPhase :=
  [.intake, .retrieve, .synthesize, .build, .verify, .proposeWrites, .executeWrites, .monitor]

structure MissionStopLimits where
  maxActions : ℤ
  maxDenies : ℤ
  maxBytes : ℕ

structure MissionState where
  missionId : String
  missionAttemptId : ℕ
  currentPhase : MissionPhase
  phaseHistory : List MissionPhase
  actionCount : ℕ
  denyCount : ℕ
  bytesObserved : ℕ
  /-- The keys of the record `seenIdempotencyKeys`, newest first. -/
  seenIdempotencyKeys : List String

def buildInitialMissionState (missionId : String) (missionAttemptId : ℕ) : MissionState where
  missionId := missionId
  missionAttemptId := missionAttemptId
  currentPhase := .intake
  phaseHistory := [.intake]
  actionCount := 0
  denyCount := 0
  bytesObserved := 0
  seenIdempotencyKeys := []

variable (sha : Sha256) (locale : Locale)

/-- `text.slice(0, n)` on a digest. -/
def takeChars (n : ℕ) (text : String) : String :=
  String.ofList (text.toList.take n)

def deriveDeterministicActionId (missionId : String) (missionAttemptId : ℕ)
    (phase : MissionPhase) (actionType : ActionType) (canonicalActionParams : JsonObject) :
    String :=
  let basis := String.intercalate "|"
    [missionId, toString missionAttemptId, phase.text, actionType.text,
      canonicalJson locale (.obj canonicalActionParams.members)]
  "action_" ++ takeChars 24 (sha.digest basis)

structure MissionCheckpoint where
  missionId : String
  missionAttemptId : ℕ
  phase : MissionPhase
  actionType : ActionType
  observedAt : String
  idempotencyKey : String
  actionId : String

def createMissionCheckpoint (state : MissionState) (phase : MissionPhase)
    (actionType : ActionType) (idempotencyKey : String) (canonicalActionParams : JsonObject)
    (observedAt : String) : MissionCheckpoint where
  missionId := state.missionId
  missionAttemptId := state.missionAttemptId
  phase := phase
  actionType := actionType
  observedAt := observedAt
  idempotencyKey := idempotencyKey
  actionId := deriveDeterministicActionId sha locale state.missionId state.missionAttemptId
    phase actionType canonicalActionParams

def advanceMissionPhase (state : MissionState) : MissionState :=
  let currentIndex := missionPhaseSequence.idxOf state.currentPhase
  let nextIndex := min (missionPhaseSequence.length - 1) (currentIndex + 1)
  let nextPhase := missionPhaseSequence.getD nextIndex .monitor
  { state with
    currentPhase := nextPhase
    phaseHistory := state.phaseHistory ++ [nextPhase] }

def registerMissionActionOutcome (state : MissionState) (idempotencyKey : String)
    (bytesObserved : ℕ) (denied : Bool) : MissionState :=
  { state with
    actionCount := state.actionCount + 1
    denyCount := state.denyCount + if denied then 1 else 0
    bytesObserved := state.bytesObserved + bytesObserved
    seenIdempotencyKeys := idempotencyKey :: state.seenIdempotencyKeys }

/-- Why the attempt stops, if it does; the block code is `MISSION_STOP_LIMIT_REACHED`. -/
def evaluateMissionStopDecision (state : MissionState) (limits : MissionStopLimits) :
    Option String :=
  if limits.maxActions ≤ state.actionCount then
    some "Action limit reached."
  else if limits.maxDenies ≤ state.denyCount then
    some "Deny limit reached."
  else if limits.maxBytes ≤ state.bytesObserved then
    some "Byte limit reached."
  else
    none

/-- A mission that goes on is below each of its limits. -/
lemma evaluateMissionStopDecision_eq_none {state : MissionState} {limits : MissionStopLimits} :
    evaluateMissionStopDecision state limits = none ↔
      state.actionCount < limits.maxActions ∧ state.denyCount < limits.maxDenies ∧
        state.bytesObserved < limits.maxBytes := by
  unfold evaluateMissionStopDecision
  split_ifs <;> simp <;> omega

/-! What recording an outcome does to the counters. -/

@[simp] lemma advanceMissionPhase_actionCount (state : MissionState) :
    (advanceMissionPhase state).actionCount = state.actionCount := rfl

@[simp] lemma advanceMissionPhase_denyCount (state : MissionState) :
    (advanceMissionPhase state).denyCount = state.denyCount := rfl

@[simp] lemma advanceMissionPhase_seen (state : MissionState) :
    (advanceMissionPhase state).seenIdempotencyKeys = state.seenIdempotencyKeys := rfl

@[simp] lemma registerMissionActionOutcome_actionCount (state : MissionState) (key : String)
    (bytes : ℕ) (denied : Bool) :
    (registerMissionActionOutcome state key bytes denied).actionCount =
      state.actionCount + 1 := rfl

@[simp] lemma registerMissionActionOutcome_denyCount (state : MissionState) (key : String)
    (bytes : ℕ) (denied : Bool) :
    (registerMissionActionOutcome state key bytes denied).denyCount =
      state.denyCount + if denied then 1 else 0 := rfl

@[simp] lemma registerMissionActionOutcome_seen (state : MissionState) (key : String)
    (bytes : ℕ) (denied : Bool) :
    (registerMissionActionOutcome state key bytes denied).seenIdempotencyKeys =
      key :: state.seenIdempotencyKeys := rfl

end AgentBigBrain.Core

import AgentBigBrain.Core.Types

/-!
# Action costs

The cost of an action is a base price and a surcharge for every 1500 code units of
serialized parameters beyond the first, with a ceiling. Amounts are exact rationals.
-/
namespace AgentBigBrain.Core

open Js

def baseActionCostUsd : ActionType → ℚ
  | .respond => 2 / 100
  | .readFile => 5 / 100
  | .writeFile => 8 / 100
  | .deleteFile => 35 / 100
  | .listDirectory => 6 / 100
  | .createSkill => 22 / 100
  | .updateSkill => 16 / 100
  | .deprecateSkill => 8 / 100
  | .approveSkill => 8 / 100
  | .rejectSkill => 8 / 100
  | .runSkill => 10 / 100
  | .networkWrite => 15 / 100
  | .selfModify => 20 / 100
  | .shellCommand => 25 / 100
  | .startProcess => 28 / 100
  | .checkProcess => 4 / 100
  | .stopProcess => 12 / 100
  | .probePort => 3 / 100
  | .probeHttp => 4 / 100
  | .verifyBrowser => 9 / 100
  | .openBrowser => 3 / 100
  | .closeBrowser => 3 / 100
  | .stopFolderRuntimeProcesses => 14 / 100
  | .inspectPathHolders => 4 / 100
  | .inspectWorkspaceResources => 4 / 100
  | .memoryMutation => 8 / 100
  | .pulseEmit => 4 / 100

def payloadSurchargePerUnitUsd : ActionType → ℚ
  | .respond => 2 / 100
  | .readFile => 1 / 100
  | .writeFile => 8 / 100
  | .deleteFile => 1 / 100
  | .listDirectory => 1 / 100
  | .createSkill => 10 / 100
  | .updateSkill => 8 / 100
  | .deprecateSkill => 2 / 100
  | .approveSkill => 2 / 100
  | .rejectSkill => 2 / 100
  | .runSkill => 6 / 100
  | .networkWrite => 6 / 100
  | .selfModify => 8 / 100
  | .shellCommand => 8 / 100
  | .startProcess => 6 / 100
  | .checkProcess => 2 / 100
  | .stopProcess => 2 / 100
  | .probePort => 1 / 100
  | .probeHttp => 2 / 100
  | .verifyBrowser => 4 / 100
  | .openBrowser => 1 / 100
  | .closeBrowser => 1 / 100
  | .stopFolderRuntimeProcesses => 3 / 100
  | .inspectPathHolders => 2 / 100
  | .inspectWorkspaceResources => 2 / 100
  | .memoryMutation => 4 / 100
  | .pulseEmit => 2 / 100

def payloadUnitSizeChars : ℕ := 1500

def maxPayloadSurchargeUsd : ℚ := 3 / 2

/-- `Number(Math.max(0, value).toFixed(4))`. -/
def normalizeUsd (value : ℚ) : ℚ :=
  roundTo 4 (max 0 value)

def estimatePayloadUnits (params : JsonObject) : ℕ :=
  let payloadChars := utf16Length (Json.stringify (.obj params.members))
  if payloadChars ≤ payloadUnitSizeChars then
    0
  else
    (payloadChars + payloadUnitSizeChars - 1) / payloadUnitSizeChars - 1

def estimateActionCostUsd (type : ActionType) (params : JsonObject) : ℚ :=
  let units := estimatePayloadUnits params
  let payloadSurcharge := min maxPayloadSurchargeUsd (units * payloadSurchargePerUnitUsd type)
  normalizeUsd (baseActionCostUsd type + payloadSurcharge)

lemma roundTo_nonneg (digits : ℕ) {x : ℚ} (hx : 0 ≤ x) : 0 ≤ roundTo digits x := by
  unfold roundTo
  have hscaled : 0 ≤ x * 10 ^ digits + 1 / 2 := by positivity
  have hfloor : (0 : ℚ) ≤ ⌊x * 10 ^ digits + 1 / 2⌋ := by
    exact_mod_cast Int.floor_nonneg.mpr hscaled
  positivity

/-- Costs are never negative. -/
theorem estimateActionCostUsd_nonneg (type : ActionType) (params : JsonObject) :
    0 ≤ estimateActionCostUsd type params :=
  roundTo_nonneg 4 (le_max_left _ _)

end AgentBigBrain.Core

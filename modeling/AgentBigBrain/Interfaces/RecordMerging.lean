import AgentBigBrain.Interfaces.SessionState

/-!
# Merging turns, events, actions, browser sessions and destinations

Each list is written into a map under the key of its records and read back in order.
Turns and events are overwritten by the incoming record, actions and destinations only by
one that is not older, and browser sessions keep what the preferred record lacks.
-/
namespace AgentBigBrain.Interfaces

open AgentBigBrain.Js AgentBigBrain.Core AgentBigBrain.Lib

/-- A list that is merged through a keyed map and then sorted. -/
def mergeSorted {α κ : Type*} [DecidableEq κ] (m : KeyedMerge α κ) (order : Comparator α)
    (existing incoming : List α) : List α :=
  order.sort (m.values existing incoming)

/-- Different keys, in the order a merge leaves them in. -/
structure ListInOrder {α κ : Type*} (m : KeyedMerge α κ) (order : Comparator α)
    (xs : List α) : Prop where
  distinct : m.Distinct xs
  sorted : order.Sorted xs

section

variable {α κ : Type*} [DecidableEq κ] {m : KeyedMerge α κ} {order : Comparator α}

instance (xs : List α) : Decidable (ListInOrder m order xs) :=
  decidable_of_iff (m.Distinct xs ∧ order.Sorted xs) ⟨fun h => ⟨h.1, h.2⟩, fun h => ⟨h.1, h.2⟩⟩

@[simp] lemma mem_mergeSorted {existing incoming : List α} {x : α} :
    x ∈ mergeSorted m order existing incoming ↔ x ∈ m.values existing incoming :=
  order.mem_sort

lemma listInOrder_mergeSorted (existing incoming : List α) :
    ListInOrder m order (mergeSorted m order existing incoming) where
  distinct := ((order.sort_perm _).map _).nodup_iff.mpr (m.distinct_values existing incoming)
  sorted := order.sorted_sort _

/-- A list merged with itself stays as it is. -/
theorem mergeSorted_self {xs : List α} (h : ListInOrder m order xs)
    (hchoose : ∀ x ∈ xs, m.choose x x = x) : mergeSorted m order xs xs = xs := by
  unfold mergeSorted
  rw [m.values_self h.distinct hchoose]
  exact order.sort_of_sorted h.sorted

end

variable (platform : Platform)

/-! ## Turns -/

/-- `value ?? fallback` and the like, then the parts joined by bars. -/
def joinBars (parts : List String) : String :=
  String.intercalate "|" parts

def actorKey : Option ConversationTurnActorMetadata → String
  | none => "actor:absent"
  | some actor =>
      String.intercalate ":"
        [actor.source.text, actor.principalRole.text,
          (actor.principalIdHash.or actor.providerUserIdHash).getD "unknown"]

def sourceEventKey (actor : Option ConversationTurnActorMetadata) : String :=
  match actor.bind ConversationTurnActorMetadata.sourceEventIdHash with
  | some hash => if hash = "" then "" else "event:" ++ hash
  | none => ""

def ConversationTurn.actor (turn : ConversationTurn) : Option ConversationTurnActorMetadata :=
  turn.metadata.bind ConversationTurnMetadata.actor

def buildConversationTurnMergeKey (turn : ConversationTurn) : String :=
  match turn.id.filter (· ≠ "") with
  | some id => "id:" ++ id
  | none =>
      joinBars [turn.at, turn.role.text, turn.text, sourceEventKey turn.actor, actorKey turn.actor]

def turnsByKey : KeyedMerge ConversationTurn String where
  key := buildConversationTurnMergeKey
  choose _ turn := turn
  key_choose _ _ _ := rfl

def turnOrder : Comparator ConversationTurn :=
  (platform.locale.byKey ConversationTurn.at).thenBy
    ((platform.locale.byKey fun turn => turn.role.text).thenBy
      (platform.locale.byKey ConversationTurn.text))

def mergeConversationTurns (existingTurns incomingTurns : List ConversationTurn) :
    List ConversationTurn :=
  mergeSorted turnsByKey (turnOrder platform) existingTurns incomingTurns

/-! ## Classifier events -/

def classifierEventKey (event : ConversationClassifierEvent) : String :=
  joinBars
    [event.classifier.text, event.at, event.input, event.matchedRuleId,
      (event.intent.map ConversationClassifierIntent.text).getD "none",
      if event.conflict then "1" else "0"]

def eventsByKey : KeyedMerge ConversationClassifierEvent String where
  key := classifierEventKey
  choose _ event := event
  key_choose _ _ _ := rfl

def eventOrder : Comparator ConversationClassifierEvent :=
  platform.locale.byKey ConversationClassifierEvent.at

def mergeClassifierEvents (existingEvents incomingEvents : List ConversationClassifierEvent) :
    List ConversationClassifierEvent :=
  mergeSorted eventsByKey (eventOrder platform) existingEvents incomingEvents

/-! ## Recent actions and path destinations -/

/-- Records under a key, of which the incoming one is kept unless its time is older. -/
def newestByKey {α κ : Type*} (key : α → κ) (time : α → String) : KeyedMerge α κ where
  key := key
  choose current incoming := if textLe (time current) (time incoming) then incoming else current
  key_choose current incoming h := by
    split_ifs
    · rfl
    · exact h

@[simp] lemma newestByKey_choose_self {α κ : Type*} (key : α → κ) (time : α → String) (x : α) :
    (newestByKey key time).choose x x = x := by
  simp [newestByKey]

def actionsById : KeyedMerge ConversationRecentActionRecord String :=
  newestByKey ConversationRecentActionRecord.id ConversationRecentActionRecord.at

def actionOrder : Comparator ConversationRecentActionRecord :=
  (platform.locale.byKey ConversationRecentActionRecord.at).reverse

def mergeRecentActions (existingActions incomingActions : List ConversationRecentActionRecord) :
    List ConversationRecentActionRecord :=
  mergeSorted actionsById (actionOrder platform) existingActions incomingActions

def destinationsByLabel : KeyedMerge ConversationPathDestinationRecord String :=
  newestByKey (fun destination => platform.toLowerCase destination.label)
    ConversationPathDestinationRecord.updatedAt

def destinationOrder : Comparator ConversationPathDestinationRecord :=
  (platform.locale.byKey ConversationPathDestinationRecord.updatedAt).reverse

def mergePathDestinations
    (existingDestinations incomingDestinations : List ConversationPathDestinationRecord) :
    List ConversationPathDestinationRecord :=
  mergeSorted (destinationsByLabel platform) (destinationOrder platform) existingDestinations
    incomingDestinations

/-! ## Browser sessions -/

/-- The preferred record with the process and workspace fields it lacks. -/
def backfillBrowserSession (preferred fallback : ConversationBrowserSessionRecord) :
    ConversationBrowserSessionRecord :=
  { preferred with
    browserProcessPid := preferred.browserProcessPid.or fallback.browserProcessPid
    workspaceRootPath := preferred.workspaceRootPath.or fallback.workspaceRootPath
    linkedProcessLeaseId := preferred.linkedProcessLeaseId.or fallback.linkedProcessLeaseId
    linkedProcessCwd := preferred.linkedProcessCwd.or fallback.linkedProcessCwd
    linkedProcessPid := preferred.linkedProcessPid.or fallback.linkedProcessPid }

def chooseBrowserSession (current incoming : ConversationBrowserSessionRecord) :
    ConversationBrowserSessionRecord :=
  if textLe current.openedAt incoming.openedAt then backfillBrowserSession incoming current
  else backfillBrowserSession current incoming

@[simp] lemma backfillBrowserSession_self (session : ConversationBrowserSessionRecord) :
    backfillBrowserSession session session = session := by
  simp [backfillBrowserSession]

def browserSessionsById : KeyedMerge ConversationBrowserSessionRecord String where
  key := ConversationBrowserSessionRecord.id
  choose := chooseBrowserSession
  key_choose current incoming h := by
    unfold chooseBrowserSession backfillBrowserSession
    split_ifs
    · rfl
    · exact h

def browserSessionOrder : Comparator ConversationBrowserSessionRecord :=
  (platform.locale.byKey ConversationBrowserSessionRecord.openedAt).reverse

def mergeBrowserSessions (existingSessions incomingSessions : List ConversationBrowserSessionRecord) :
    List ConversationBrowserSessionRecord :=
  mergeSorted browserSessionsById (browserSessionOrder platform) existingSessions incomingSessions

end AgentBigBrain.Interfaces

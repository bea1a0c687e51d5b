import AgentBigBrain.Core.RequestEnvelope
import AgentBigBrain.Js.OwnProperties

/-!
# Review-action notes

A review action is a Markdown note with a block of `key: value` lines in front. A small parser
reads the block, and the runtime writes the note back with some of the fields changed.
-/
namespace AgentBigBrain.Core

open Js

inductive ObsidianReviewActionKind where
  | resolveEpisode
  | markEpisodeWrong
  | forgetEpisode
  | correctFact
  | forgetFact
  | createFollowUpLoop
  deriving DecidableEq, Repr

def ObsidianReviewActionKind.text : ObsidianReviewActionKind → String
  | .resolveEpisode => "resolve_episode"
  | .markEpisodeWrong => "mark_episode_wrong"
  | .forgetEpisode => "forget_episode"
  | .correctFact => "correct_fact"
  | .forgetFact => "forget_fact"
  | .createFollowUpLoop => "create_follow_up_loop"

inductive ObsidianReviewActionStatus where
  | pending
  | applied
  | failed
  deriving DecidableEq, Repr

def ObsidianReviewActionStatus.text : ObsidianReviewActionStatus → String
  | .pending => "pending"
  | .applied => "applied"
  | .failed => "failed"

inductive ReviewActionFrontmatterValue where
  | text (value : String)
  | list (entries : List String)
  | null
  deriving DecidableEq, Repr

structure ObsidianReviewAction where
  actionId : String
  actionKind : ObsidianReviewActionKind
  targetId : Option String
  replacementValue : Option String
  followUpText : Option String
  status : ObsidianReviewActionStatus
  noteBody : String
  sourcePath : String
  threadKey : Option String
  entityRefs : List String
  sourceRecallRefs : List String
  deriving DecidableEq, Repr

/-- The fields of a block, with the body of the note. -/
structure SimpleFrontmatter where
  properties : List (String × ReviewActionFrontmatterValue)
  body : List Char

/-! ## Reading -/

/-- `text.replace(/\r\n/g, "\n")`. -/
def replaceCrLf : List Char → List Char
  | [] => []
  | c :: cs =>
      if c = '\r' ∧ cs.head? = some '\n' then replaceCrLf cs else c :: replaceCrLf cs

/-- What stands before and behind the first occurrence of a part. -/
def splitFirst (part : List Char) : List Char → Option (List Char × List Char)
  | [] => if part = [] then some ([], []) else none
  | c :: cs =>
      if part.isPrefixOf (c :: cs) then some ([], (c :: cs).drop part.length)
      else (splitFirst part cs).map fun found => (c :: found.1, found.2)

def stripWrappingQuotes (value : List Char) : List Char :=
  if (value.head? = some '"' ∧ value.getLast? = some '"') ∨
      (value.head? = some '\'' ∧ value.getLast? = some '\'') then
    (value.drop 1).dropLast
  else
    value

/-- `line.match(/^\s*-\s+(.*)$/)`. -/
def arrayMatch (line : List Char) : Option (List Char) :=
  match line.dropWhile isWhitespace with
  | '-' :: c :: cs =>
      let entry := cs.dropWhile isWhitespace
      if isWhitespace c ∧ entry.all (fun d => !isLineTerminator d) then some entry else none
  | _ => none

def parseFrontmatterScalar (value : List Char) : ReviewActionFrontmatterValue :=
  if value = "null".toList then .null else .text (String.ofList (stripWrappingQuotes value))

/-- `properties[key] = value`; the name `__proto__` sets the prototype instead. -/
def setProperty (key : String) (value : ReviewActionFrontmatterValue)
    (properties : List (String × ReviewActionFrontmatterValue)) :
    List (String × ReviewActionFrontmatterValue) :=
  if key = "__proto__" then properties else assign key value properties

/-- The variables of the loop over the lines. -/
structure FrontmatterState where
  properties : List (String × ReviewActionFrontmatterValue)
  currentArrayKey : Option String

/-- The entries of a list so far. -/
def listEntries : Option ReviewActionFrontmatterValue → List String
  | some (.list entries) => entries
  | _ => []

def readFrontmatterLine (state : FrontmatterState) (rawLine : List Char) : FrontmatterState :=
  let line := trimEnd rawLine
  -- the empty key counts as no key
  match arrayMatch line, state.currentArrayKey.filter (· ≠ "") with
  | some entry, some key =>
      { state with
        properties := setProperty key
          (.list (listEntries (state.properties.lookup key) ++
            [String.ofList (stripWrappingQuotes entry)])) state.properties }
  | _, _ =>
      if ':' ∈ line then
        let key := String.ofList (trimChars (line.takeWhile (· ≠ ':')))
        let rawValue := trimChars ((line.dropWhile (· ≠ ':')).drop 1)
        if rawValue = [] then
          { properties := setProperty key (.list []) state.properties
            currentArrayKey := some key }
        else
          { properties := setProperty key (parseFrontmatterScalar rawValue) state.properties
            currentArrayKey := none }
      else
        { state with currentArrayKey := none }

def readFrontmatterLines (lines : List (List Char)) : FrontmatterState :=
  lines.foldl readFrontmatterLine ⟨[], none⟩

def parseSimpleFrontmatter (markdown : String) : Option SimpleFrontmatter :=
  let normalized := replaceCrLf markdown.toList
  if "---\n".toList.isPrefixOf normalized then
    (splitFirst "\n---\n".toList (normalized.drop 4)).map fun (frontmatter, rest) =>
      { properties := (readFrontmatterLines (frontmatter.splitOn '\n')).properties
        body := trimChars rest }
  else
    none

/-! ## The action -/

def normalizeReviewActionKind :
    Option ReviewActionFrontmatterValue → Option ObsidianReviewActionKind
  | some (.text value) =>
      [ObsidianReviewActionKind.resolveEpisode, .markEpisodeWrong, .forgetEpisode, .correctFact,
        .forgetFact, .createFollowUpLoop].find? fun kind => trim value = kind.text
  | _ => none

def normalizeReviewActionStatus (value : Option ReviewActionFrontmatterValue) :
    Option ObsidianReviewActionStatus :=
  let normalized := match value with
    | some (.text value) => trim value
    | _ => "pending"
  [ObsidianReviewActionStatus.pending, .applied, .failed].find? fun status =>
    normalized = status.text

def normalizeText : Option ReviewActionFrontmatterValue → Option String
  | some (.text value) => if trim value = "" then none else some (trim value)
  | _ => none

def normalizeTextArray : Option ReviewActionFrontmatterValue → List String
  | some (.list entries) => (entries.map trim).filter (· ≠ "")
  | _ => []

/-- The action that the fields describe, if they describe one. -/
def reviewActionOf (parsed : SimpleFrontmatter) (sourcePath : String) :
    Option ObsidianReviewAction := do
  let property := fun key => parsed.properties.lookup key
  let targetId := normalizeText (property "abb_target_id")
  let actionKind ← normalizeReviewActionKind (property "abb_action_kind")
  let actionId ← normalizeText (property "abb_review_action_id")
  let status ← normalizeReviewActionStatus (property "abb_status")
  if actionKind ≠ .createFollowUpLoop ∧ targetId = none then none
  return {
    actionId := actionId
    actionKind := actionKind
    targetId := targetId
    replacementValue := normalizeText (property "abb_replacement_value")
    followUpText := normalizeText (property "abb_follow_up_text")
    status := status
    noteBody := String.ofList parsed.body
    sourcePath := sourcePath
    threadKey := normalizeText (property "abb_thread_key")
    entityRefs := normalizeTextArray (property "abb_entity_refs")
    sourceRecallRefs := normalizeTextArray (property "abb_source_recall_refs") }

def parseObsidianReviewActionMarkdown (markdown sourcePath : String) :
    Option ObsidianReviewAction :=
  (parseSimpleFrontmatter markdown).bind fun parsed => reviewActionOf parsed sourcePath

/-! ## Writing -/

/-- `JSON.stringify(value)` of a string. -/
def stringifyText (value : String) : List Char :=
  '"' :: Json.renderString value.toList

/-- The lines of one field. -/
def fieldLines (key : String) : ReviewActionFrontmatterValue → List (List Char)
  | .list entries =>
      (key.toList ++ [':']) :: entries.map fun entry => "  - ".toList ++ stringifyText entry
  | .null => [key.toList ++ ": null".toList]
  | .text value => [key.toList ++ ": ".toList ++ stringifyText value]

def frontmatterLines (properties : List (String × ReviewActionFrontmatterValue)) :
    List (List Char) :=
  properties.flatMap fun property => fieldLines property.1 property.2

/-- The field values that an update map holds. -/
def updateValue : Option String → ReviewActionFrontmatterValue
  | some value => .text value
  | none => .null

/-- The updates of a note: strings, or `none` for `null`. -/
structure ReviewActionUpdates where
  members : List (String × Option String)
  ordered : InKeyOrder members

/-- `{ ...properties, ...updates }`. -/
def updatedProperties (properties : List (String × ReviewActionFrontmatterValue))
    (updates : ReviewActionUpdates) : List (String × ReviewActionFrontmatterValue) :=
  assignAll (assignAll [] properties)
    (updates.members.map fun update => (update.1, updateValue update.2))

/-- The text of a note, line by line. -/
def renderNote (properties : List (String × ReviewActionFrontmatterValue)) (body : List Char) :
    List Char :=
  trimEnd (['\n'].intercalate
    ("---".toList :: frontmatterLines properties ++ ["---".toList, [], trimChars body])) ++ ['\n']

def rewriteObsidianReviewActionMarkdown (markdown : String) (updates : ReviewActionUpdates) :
    String :=
  let parsed := (parseSimpleFrontmatter markdown).getD
    { properties := [], body := trimChars markdown.toList }
  String.ofList (renderNote (updatedProperties parsed.properties updates) parsed.body)

end AgentBigBrain.Core

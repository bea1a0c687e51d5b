import AgentBigBrain.Core.Types
import AgentBigBrain.Js.Platform
import AgentBigBrain.Lib.SlashPaths
import Mathlib.Data.List.DropRight

/-!
# Path constraints and the paths that are used

The hard constraints judge the path parameter of a file action and the words of a shell command;
the executor opens the one and runs the other. Both sides are here as they read their parameters.
-/
namespace AgentBigBrain.Core

open AgentBigBrain.Js AgentBigBrain.Lib

/-! ## `node:path` -/

/-- What is used of `node:path` and `process.cwd()`. -/
structure NodePath where
  cwd : String
  sep : String
  isAbsolute : String → Bool
  /-- `path.resolve(base, path)`. -/
  resolve : String → String → String
  /-- A resolved path is absolute and has no segments to drop. -/
  resolve_resolve : ∀ base other path, resolve base (resolve other path) = resolve other path

namespace NodePath

def posixIsAbsolute (path : List Char) : Bool :=
  path.head? = some '/'

/-- The segments that a path is taken from. -/
def posixSegments (cwd base path : List Char) : List (List Char) :=
  let fromBase := if posixIsAbsolute base then base else cwd ++ '/' :: base
  (if posixIsAbsolute path then path else fromBase ++ '/' :: path).splitOn '/'

def posixResolve (cwd base path : List Char) : List Char :=
  absolutePath '/' (resolveSegments '.' [] (posixSegments cwd base path))

lemma posixResolve_resolve (cwd base other path : List Char) :
    posixResolve cwd base (posixResolve cwd other path) = posixResolve cwd other path := by
  have hstays : ∀ segment ∈ resolveSegments '.' [] (posixSegments cwd other path),
      Stays '/' '.' segment := by
    refine stays_resolveSegments (by simp) fun segment hsegment => ?_
    exact sep_not_mem_segment hsegment
  have habsolute : posixIsAbsolute (posixResolve cwd other path) = true := rfl
  have hsegments : posixSegments cwd base (posixResolve cwd other path) =
      (posixResolve cwd other path).splitOn '/' := by
    unfold posixSegments
    dsimp only
    rw [if_pos habsolute]
  exact congrArg (absolutePath '/')
    ((congrArg (resolveSegments '.' []) hsegments).trans (resolveSegments_absolutePath hstays))

/-- `path.posix` in a process with the working directory. -/
def posix (cwd : String) : NodePath where
  cwd := cwd
  sep := "/"
  isAbsolute path := posixIsAbsolute path.toList
  resolve base path := String.ofList (posixResolve cwd.toList base.toList path.toList)
  resolve_resolve base other path := by
    simp only [String.toList_ofList, posixResolve_resolve]

end NodePath

/-! ## Configuration -/

structure ShellCwdPolicy where
  allowRelative : Bool
  denyOutsideSandbox : Bool

/-- What the path and process constraints read of the configuration. -/
structure PathConstraintConfig where
  enforceSandboxDelete : Bool
  enforceSandboxListDirectory : Bool
  allowShellCommandAction : Bool
  sandboxPathPrefix : String
  protectedPathPrefixes : List String
  commandMaxChars : ℕ
  shellKind : String
  cwdPolicy : ShellCwdPolicy

variable (host : Host) (node : NodePath)

def getStringParam (params : JsonObject) (key : String) : Option String :=
  match params.get key with
  | some (.str s) => some s
  | _ => none

/-! ## `hardConstraintPathPolicy` -/

def slashed (cs : List Char) : List Char :=
  cs.map fun c => if c = '\\' then '/' else c

def normalizePath (input : String) : String :=
  host.toLowerCase (String.ofList (slashed input.toList))

/-- `replace(/\/+$/, "")`. -/
def withoutTrailingSlashes (cs : List Char) : List Char :=
  cs.rdropWhile (· = '/')

def normalizeAbsolutePath (inputPath : String) : List Char :=
  withoutTrailingSlashes (normalizePath host (node.resolve node.cwd inputPath)).toList

def isPathWithinPrefix (targetPath prefixPath : String) : Bool :=
  let normalizedTarget := normalizeAbsolutePath host node targetPath
  let normalizedPrefix := normalizeAbsolutePath host node prefixPath
  decide (normalizedTarget = normalizedPrefix) ||
    (normalizedPrefix ++ ['/']).isPrefixOf normalizedTarget

def isProtectedPath (targetPath : String) (config : PathConstraintConfig) : Bool :=
  config.protectedPathPrefixes.any (isPathWithinPrefix host node targetPath)

/-! ## `pathConstraints` -/

inductive PathAction where
  | deleteFile
  | readFile
  | writeFile
  | listDirectory
  deriving DecidableEq

def PathAction.missingPath : PathAction → ConstraintViolation
  | .deleteFile => ⟨.deleteMissingPath, "Delete action requires a path."⟩
  | .readFile => ⟨.readMissingPath, "Read action requires a path."⟩
  | .writeFile => ⟨.writeMissingPath, "Write action requires a path."⟩
  | .listDirectory => ⟨.listMissingPath, "List directory action requires a path."⟩

def PathAction.protectedPath (targetPath : String) : PathAction → ConstraintViolation
  | .deleteFile => ⟨.deleteProtectedPath, "Delete denied for protected path: " ++ targetPath⟩
  | .readFile => ⟨.readProtectedPath, "Read denied for protected path: " ++ targetPath⟩
  | .writeFile => ⟨.writeProtectedPath, "Write denied to protected path: " ++ targetPath⟩
  | .listDirectory => ⟨.listProtectedPath, "List denied for protected path: " ++ targetPath⟩

/-- The check of the path that the parameters name. -/
def pathViolations (actionType : PathAction) (targetPath : String)
    (config : PathConstraintConfig) : List ConstraintViolation :=
  if targetPath = "" then [actionType.missingPath]
  else if isProtectedPath host node targetPath config then [actionType.protectedPath targetPath]
  else
    (if actionType = .deleteFile ∧ config.enforceSandboxDelete = true ∧
        isPathWithinPrefix host node targetPath config.sandboxPathPrefix = false then
      [⟨.deleteOutsideSandbox,
        "Delete path must stay inside sandbox (" ++ config.sandboxPathPrefix ++ ")."⟩]
    else []) ++
    if actionType = .listDirectory ∧ config.enforceSandboxListDirectory = true ∧
        isPathWithinPrefix host node targetPath config.sandboxPathPrefix = false then
      [⟨.listOutsideSandbox,
        "List path must stay inside sandbox (" ++ config.sandboxPathPrefix ++ ")."⟩]
    else []

def evaluatePathActionConstraints (actionType : PathAction) (params : JsonObject)
    (config : PathConstraintConfig) : List ConstraintViolation :=
  match getStringParam params "path" with
  | none => [actionType.missingPath]
  | some targetPath => pathViolations host node actionType targetPath config

/-! ## `fileMutationExecution` -/

def resolveWorkspacePath (inputPath : String) : String :=
  if node.isAbsolute inputPath then inputPath else node.resolve node.cwd inputPath

/-- How far an action comes without the file system. -/
inductive FileAccess where
  | blocked (output : String) (failureCode : String)
  | opens (path : String)
  deriving DecidableEq

def PathAction.skipped : PathAction → FileAccess
  | .readFile => .blocked "Read skipped: missing path." "READ_MISSING_PATH"
  | .writeFile => .blocked "Write skipped: missing path." "WRITE_MISSING_PATH"
  | .deleteFile => .blocked "Delete skipped: missing path." "DELETE_MISSING_PATH"
  | .listDirectory => .blocked "List directory skipped: missing path." "LIST_MISSING_PATH"

/-- The file actions of `executeFileMutationAction`, up to the path they open. -/
def executeFileMutationAction (actionType : PathAction) (params : JsonObject) : FileAccess :=
  match normalizeOptionalString (params.get "path") with
  | none => actionType.skipped
  | some targetPath =>
      match actionType, params.get "content" with
      | .writeFile, some (.str content) =>
          if content = "" then
            .blocked
              "Write blocked: params.content is empty - planner must supply non-empty file content."
              "ACTION_EXECUTION_FAILED"
          else .opens (resolveWorkspacePath node targetPath)
      | .writeFile, _ =>
          .blocked
            "Write blocked: missing params.content - planner must supply the file content string."
            "ACTION_EXECUTION_FAILED"
      | _, _ => .opens (resolveWorkspacePath node targetPath)

/-! ## `hardConstraintShellPolicy` -/

def shellPathParamKeys : List String :=
  ["path", "target", "file", "directory", "cwd", "workdir", "output", "input"]

def dangerousShellPatterns : List String :=
  ["rm -rf /", "del /f /s /q", "format c:", "mkfs", "shutdown -s"]

def containsDangerousCommand (command : String) : Bool :=
  dangerousShellPatterns.any (includes (host.toLowerCase command))

/-- What a quote at the head of a text encloses, and the text after its closing quote. -/
def quotedToken (quote : Char) (cs : List Char) : Option (List Char × List Char) :=
  if quote ∈ cs then
    some (quote :: cs.takeWhile (· ≠ quote) ++ [quote], (cs.dropWhile (· ≠ quote)).tail)
  else none

/-- The token at a character that is no white space, and the text after it. -/
def nextToken (c : Char) (cs : List Char) : List Char × List Char :=
  let word := (c :: cs.takeWhile (!isWhitespace ·), cs.dropWhile (!isWhitespace ·))
  if c = '"' ∨ c = '\'' then (quotedToken c cs).getD word else word

/-- The matches of `/"[^"]*"|'[^']*'|\S+/g`; the text is not longer than `fuel`. -/
def tokensFrom : ℕ → List Char → List (List Char)
  | 0, _ => []
  | _ + 1, [] => []
  | fuel + 1, c :: cs =>
      if isWhitespace c then tokensFrom fuel cs
      else (nextToken c cs).1 :: tokensFrom fuel (nextToken c cs).2

def splitShellCommandTokens (command : String) : List (List Char) :=
  tokensFrom command.toList.length command.toList

/-- `replace(/^["']|["']$/g, "")`. -/
def withoutQuotes (cs : List Char) : List Char :=
  let isQuote (c : Option Char) : Bool := decide (c = some '"' ∨ c = some '\'')
  let opened := if isQuote cs.head? then cs.tail else cs
  if isQuote opened.getLast? then opened.dropLast else opened

def stripShellTokenDecoration (token : List Char) : List Char :=
  trimChars (withoutQuotes
    (((trimChars token).dropWhile (fun c => c ∈ ['<', '>'])).rdropWhile
      (fun c => c ∈ ['<', '>', ';', ','])))

/-- The text begins with ASCII letters and then the given text: `/^[a-z]+…/i`. -/
def startsWithScheme (ending token : List Char) : Bool :=
  !(token.takeWhile Char.isAlpha).isEmpty &&
    ending.isPrefixOf (token.dropWhile Char.isAlpha)

def startsWithDrive (token : List Char) : Bool :=
  token.head?.any Char.isAlpha && decide (token[1]? = some ':')

def isLikelyPathToken (token : List Char) : Bool :=
  if token = [] ∨ token.head? = some '-' then false
  else if startsWithScheme [':', '/', '/'] token then false
  else if startsWithScheme [':'] token &&
      !(startsWithDrive token && decide (token[2]? = some '\\' ∨ token[2]? = some '/')) then
    false
  else
    decide ('/' ∈ token ∨ '\\' ∈ token ∨ token.head? = some '.' ∨ token.head? = some '~') ||
      startsWithDrive token

/-- The path-like words of a command. -/
def shellPathWords (command : String) : List String :=
  (((splitShellCommandTokens command).map stripShellTokenDecoration).filter
    isLikelyPathToken).map String.ofList

def extractShellPathTargets (params : JsonObject) : List String :=
  let named := (shellPathParamKeys.filterMap (getStringParam params)).filterMap fun value =>
    if isPresent value then some (trim value) else none
  match getStringParam params "command" with
  | none => uniqueValues named
  | some command =>
      if command = "" then uniqueValues named else uniqueValues (named ++ shellPathWords command)

/-! ## `processConstraints` -/

inductive ShellLikeAction where
  | shellCommand
  | startProcess
  deriving DecidableEq

/-- `resolveShellLikeConstraintCode`, with the message. -/
def ShellLikeAction.violation (shellCode processCode : ConstraintViolationCode)
    (shellMessage processMessage : String) : ShellLikeAction → ConstraintViolation
  | .shellCommand => ⟨shellCode, shellMessage⟩
  | .startProcess => ⟨processCode, processMessage⟩

def cwdViolations (actionType : ShellLikeAction) (shellCwd : String)
    (config : PathConstraintConfig) : List ConstraintViolation :=
  (if config.cwdPolicy.allowRelative = false ∧ node.isAbsolute shellCwd = false then
    [actionType.violation .shellCwdOutsideSandbox .processCwdOutsideSandbox
      "Shell command cwd must be absolute when relative cwd is disabled."
      "Managed process cwd must be absolute when relative cwd is disabled."]
  else []) ++
  if config.cwdPolicy.denyOutsideSandbox = true ∧
      isPathWithinPrefix host node shellCwd config.sandboxPathPrefix = false then
    [actionType.violation .shellCwdOutsideSandbox .processCwdOutsideSandbox
      ("Shell command cwd must stay inside sandbox (" ++ config.sandboxPathPrefix ++ ").")
      ("Managed process cwd must stay inside sandbox (" ++ config.sandboxPathPrefix ++ ").")]
  else []

def evaluateShellLikeActionConstraints (actionType : ShellLikeAction) (params : JsonObject)
    (config : PathConstraintConfig) : List ConstraintViolation :=
  let disabled :=
    if config.allowShellCommandAction then []
    else
      [actionType.violation .shellDisabledByPolicy .processDisabledByPolicy
        "Shell command actions are disabled in current runtime profile."
        "Managed process actions are disabled in current runtime profile."]
  let command := (getStringParam params "command").getD ""
  if command = "" then
    disabled ++
      [actionType.violation .shellMissingCommand .processMissingCommand
        "Shell command action requires a command string."
        "Managed process start requires a command string."]
  else
    let length := utf16Length command
    let commandViolations :=
      if config.commandMaxChars < length then
        let excess := " length " ++ toString length ++ " exceeds max " ++
          toString config.commandMaxChars ++ "."
        [actionType.violation .shellCommandTooLong .processCommandTooLong
          ("Shell command" ++ excess) ("Managed process command" ++ excess)]
      else if containsDangerousCommand host command then
        [actionType.violation .shellDangerousCommand .processDangerousCommand
          "Command matches denied destructive patterns."
          "Command matches denied destructive patterns."]
      else []
    let requestedShellKind := (getStringParam params "requestedShellKind").getD ""
    let mismatch := "Requested shell '" ++ requestedShellKind ++
      "' does not match resolved runtime shell '" ++ config.shellKind ++ "'."
    let shellKindViolations :=
      if requestedShellKind ≠ "" ∧ requestedShellKind ≠ config.shellKind then
        [actionType.violation .shellProfileMismatch .processProfileMismatch mismatch mismatch]
      else []
    let shellCwd := (getStringParam params "cwd" <|> getStringParam params "workdir").getD ""
    let protectedTarget := (extractShellPathTargets params).find? fun targetPath =>
      isProtectedPath host node targetPath config
    disabled ++ commandViolations ++ shellKindViolations ++
      (if shellCwd = "" then [] else cwdViolations host node actionType shellCwd config) ++
      (protectedTarget.map fun target =>
        actionType.violation .shellTargetsProtectedPath .processTargetsProtectedPath
          ("Shell command targets protected path: " ++ target)
          ("Managed process command targets protected path: " ++ target)).toList

/-! ## `shellExecution` -/

/-- `isPathWithinPrefix` of `pathRuntime`. -/
def pathRuntimeIsPathWithinPrefix (targetPath prefixPath : String) : Bool :=
  let normalizedTarget := host.toLowerCase (node.resolve node.cwd targetPath)
  let normalizedPrefix := host.toLowerCase (node.resolve node.cwd prefixPath)
  decide (normalizedTarget = normalizedPrefix) ||
    startsWith normalizedTarget (normalizedPrefix ++ node.sep) ||
    startsWith normalizedTarget (normalizedPrefix ++ "/") ||
    startsWith normalizedTarget (normalizedPrefix ++ "\\")

def resolveShellCommandCwd (config : PathConstraintConfig) (params : JsonObject) :
    Option String :=
  let requestedCwd := normalizeOptionalString (params.get "cwd") <|>
    normalizeOptionalString (params.get "workdir")
  let cwd := requestedCwd.elim node.cwd (resolveWorkspacePath node)
  if config.cwdPolicy.denyOutsideSandbox = true ∧
      pathRuntimeIsPathWithinPrefix host node cwd config.sandboxPathPrefix = false then
    none
  else some cwd

end AgentBigBrain.Core

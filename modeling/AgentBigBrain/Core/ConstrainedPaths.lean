import AgentBigBrain.Core.PathConstraints

/-!
# The paths that pass the constraints

A file action opens the trimmed path, which the constraint has not seen where there was something
to trim; a shell command runs in its working directory, while the constraint reads its words from
the directory of the process. Apart from these two the path that is checked is the path that is
used.
-/
namespace AgentBigBrain.Core

open AgentBigBrain.Js AgentBigBrain.Lib

variable (host : Host) (node : NodePath)

/-! ## Containment -/

/-- The segments of a path, as they are compared: resolved, with slashes, in lower case. -/
def comparedSegments (path : String) : List (List Char) :=
  (normalizeAbsolutePath host node path).splitOn '/'

/-- The path is the other one or lies below it. -/
def Inside (path other : String) : Prop :=
  comparedSegments host node other <+: comparedSegments host node path

instance (path other : String) : Decidable (Inside host node path other) :=
  inferInstanceAs (Decidable (_ <+: _))

/-- Outside every protected prefix. -/
def Unprotected (path : String) (config : PathConstraintConfig) : Prop :=
  ∀ prefixPath ∈ config.protectedPathPrefixes, ¬ Inside host node path prefixPath

instance (path : String) (config : PathConstraintConfig) :
    Decidable (Unprotected host node path config) :=
  inferInstanceAs (Decidable (∀ prefixPath ∈ config.protectedPathPrefixes, _))

/-- Inside the sandbox, where the action has to be. -/
def Sandboxed (actionType : PathAction) (path : String) (config : PathConstraintConfig) : Prop :=
  (actionType = .deleteFile ∧ config.enforceSandboxDelete = true ∨
    actionType = .listDirectory ∧ config.enforceSandboxListDirectory = true) →
  Inside host node path config.sandboxPathPrefix

instance (actionType : PathAction) (path : String) (config : PathConstraintConfig) :
    Decidable (Sandboxed host node actionType path config) :=
  inferInstanceAs (Decidable (_ → _))

/-! ## Properties and conditions -/

/-- What passes as a file action opens a path outside the protected prefixes and, where that is
asked for, inside the sandbox. -/
def FileActionGuarded (actionType : PathAction) (params : JsonObject)
    (config : PathConstraintConfig) : Prop :=
  evaluatePathActionConstraints host node actionType params config = [] →
    ∀ path, executeFileMutationAction node actionType params = .opens path →
      Unprotected host node path config ∧ Sandboxed host node actionType path config

/-- Where white space is trimmed off the path of an action that opens one, the trimmed path passes
as well. -/
def PaddingChecked (actionType : PathAction) (params : JsonObject)
    (config : PathConstraintConfig) : Prop :=
  evaluatePathActionConstraints host node actionType params config = [] →
    ∀ path, executeFileMutationAction node actionType params = .opens path →
      ∀ given, getStringParam params "path" = some given → trim given ≠ given →
        pathViolations host node actionType (trim given) config = []

/-- No path-like word of a command that passes lies inside a protected prefix, read from the
directory that the command runs in. -/
def ShellActionGuarded (actionType : ShellLikeAction) (params : JsonObject)
    (config : PathConstraintConfig) : Prop :=
  evaluateShellLikeActionConstraints host node actionType params config = [] →
    ∀ cwd, resolveShellCommandCwd host node config params = some cwd →
      ∀ command, normalizeOptionalString (params.get "command") = some command →
        ∀ word ∈ shellPathWords command, Unprotected host node (node.resolve cwd word) config

/-- The words that the working directory moves lie outside the protected prefixes there. -/
def MovedWordsChecked (actionType : ShellLikeAction) (params : JsonObject)
    (config : PathConstraintConfig) : Prop :=
  evaluateShellLikeActionConstraints host node actionType params config = [] →
    ∀ cwd, resolveShellCommandCwd host node config params = some cwd →
      ∀ command, normalizeOptionalString (params.get "command") = some command →
        ∀ word ∈ shellPathWords command, node.resolve cwd word ≠ node.resolve node.cwd word →
          Unprotected host node (node.resolve cwd word) config

variable {host node}

/-! ## Checks -/

lemma isPathWithinPrefix_iff {path other : String} :
    isPathWithinPrefix host node path other = true ↔ Inside host node path other := by
  unfold isPathWithinPrefix Inside comparedSegments
  rw [segments_prefix_iff]
  simp [List.isPrefixOf_iff_prefix]

lemma isProtectedPath_eq_false_iff {path : String} {config : PathConstraintConfig} :
    isProtectedPath host node path config = false ↔ Unprotected host node path config := by
  unfold isProtectedPath Unprotected
  rw [List.any_eq_false]
  refine forall₂_congr fun prefixPath _ => not_congr ?_
  exact isPathWithinPrefix_iff

lemma pathViolations_eq_nil_iff {actionType : PathAction} {path : String}
    {config : PathConstraintConfig} (h : path ≠ "") :
    pathViolations host node actionType path config = [] ↔
      Unprotected host node path config ∧ Sandboxed host node actionType path config := by
  have hinside : isPathWithinPrefix host node path config.sandboxPathPrefix = false ↔
      ¬ Inside host node path config.sandboxPathPrefix := by
    rw [← isPathWithinPrefix_iff, Bool.not_eq_true]
  unfold pathViolations
  rw [if_neg h]
  by_cases hprotected : isProtectedPath host node path config = true
  · have hnot : ¬ Unprotected host node path config := fun hun => by
      rw [isProtectedPath_eq_false_iff.mpr hun] at hprotected
      cases hprotected
    simp [hprotected, hnot]
  · have hun := isProtectedPath_eq_false_iff.mp (Bool.not_eq_true _ ▸ hprotected)
    rw [if_neg hprotected, List.append_eq_nil_iff]
    simp only [ite_eq_right_iff, imp_false, List.cons_ne_nil, hinside]
    unfold Sandboxed
    constructor
    · rintro ⟨hdelete, hlist⟩
      refine ⟨hun, ?_⟩
      rintro (⟨haction, henforced⟩ | ⟨haction, henforced⟩)
      · by_contra hout
        exact hdelete ⟨haction, henforced, hout⟩
      · by_contra hout
        exact hlist ⟨haction, henforced, hout⟩
    · rintro ⟨-, hsandbox⟩
      exact ⟨fun hdelete => hdelete.2.2 (hsandbox (Or.inl ⟨hdelete.1, hdelete.2.1⟩)),
        fun hlist => hlist.2.2 (hsandbox (Or.inr ⟨hlist.1, hlist.2.1⟩))⟩

/-! ## What is opened -/

/-- A path is opened where it resolves to. -/
lemma resolve_resolveWorkspacePath (path : String) :
    node.resolve node.cwd (resolveWorkspacePath node path) = node.resolve node.cwd path := by
  unfold resolveWorkspacePath
  split_ifs
  · rfl
  · exact node.resolve_resolve _ _ _

lemma comparedSegments_congr {path other : String}
    (h : node.resolve node.cwd path = node.resolve node.cwd other) :
    comparedSegments host node path = comparedSegments host node other := by
  unfold comparedSegments normalizeAbsolutePath
  rw [h]

lemma unprotected_congr {path other : String} {config : PathConstraintConfig}
    (h : node.resolve node.cwd path = node.resolve node.cwd other) :
    Unprotected host node path config ↔ Unprotected host node other config := by
  unfold Unprotected Inside
  rw [comparedSegments_congr h]

lemma sandboxed_congr {actionType : PathAction} {path other : String}
    {config : PathConstraintConfig}
    (h : node.resolve node.cwd path = node.resolve node.cwd other) :
    Sandboxed host node actionType path config ↔ Sandboxed host node actionType other config := by
  unfold Sandboxed Inside
  rw [comparedSegments_congr h]

lemma getStringParam_of_normalize {params : JsonObject} {key value : String}
    (h : normalizeOptionalString (params.get key) = some value) :
    ∃ given, getStringParam params key = some given ∧ value = trim given ∧ value ≠ "" := by
  unfold getStringParam
  cases hget : params.get key with
  | none =>
      rw [hget] at h
      cases h
  | some json =>
      rw [hget] at h
      cases json with
      | str s =>
          simp only [normalizeOptionalString, isPresent, decide_eq_true_eq] at h
          split_ifs at h with hpresent
          cases h
          exact ⟨s, rfl, rfl, hpresent⟩
      | _ => cases h

/-- The path that is opened is the trimmed parameter, resolved. -/
lemma opened_path {actionType : PathAction} {params : JsonObject} {path : String}
    (h : executeFileMutationAction node actionType params = .opens path) :
    ∃ given, getStringParam params "path" = some given ∧ trim given ≠ "" ∧
      path = resolveWorkspacePath node (trim given) := by
  unfold executeFileMutationAction at h
  cases hpath : normalizeOptionalString (params.get "path") with
  | none =>
      rw [hpath] at h
      cases actionType <;> cases h
  | some value =>
      obtain ⟨given, hgiven, rfl, hpresent⟩ := getStringParam_of_normalize hpath
      refine ⟨given, hgiven, hpresent, ?_⟩
      rw [hpath] at h
      dsimp only at h
      split at h
      · split_ifs at h
        exact (FileAccess.opens.inj h).symm
      · cases h
      · exact (FileAccess.opens.inj h).symm

/-- A file action is guarded exactly if trimming its path takes it nowhere else. -/
theorem fileActionGuarded_iff (actionType : PathAction) (params : JsonObject)
    (config : PathConstraintConfig) :
    FileActionGuarded host node actionType params config ↔
      PaddingChecked host node actionType params config := by
  unfold FileActionGuarded PaddingChecked
  refine imp_congr_right fun hpasses => forall₂_congr fun path hopens => ?_
  obtain ⟨given, hgiven, hpresent, rfl⟩ := opened_path hopens
  have hopened := @resolve_resolveWorkspacePath node (trim given)
  rw [unprotected_congr hopened, sandboxed_congr hopened, ← pathViolations_eq_nil_iff hpresent]
  constructor
  · intro hchecked other hother _
    rw [hgiven] at hother
    cases hother
    exact hchecked
  · intro hchecked
    by_cases htrim : trim given = given
    · unfold evaluatePathActionConstraints at hpasses
      rw [hgiven] at hpasses
      rw [htrim]
      exact hpasses
    · exact hchecked given hgiven htrim

/-! ## The words of a command -/

lemma nextToken_length (c : Char) (cs : List Char) : (nextToken c cs).2.length ≤ cs.length := by
  have hword : (cs.dropWhile (!isWhitespace ·)).length ≤ cs.length :=
    (List.dropWhile_suffix _).length_le
  have hdrop : (cs.dropWhile (· ≠ c)).length ≤ cs.length := (List.dropWhile_suffix _).length_le
  have hquoted : (cs.dropWhile (· ≠ c)).tail.length ≤ cs.length := by
    rw [List.length_tail]
    omega
  unfold nextToken quotedToken
  split_ifs
  · exact hquoted
  · exact hword
  · exact hword

/-- Fuel beyond the length of the text changes nothing. -/
lemma tokensFrom_of_le {fuel : ℕ} {cs : List Char} (h : cs.length ≤ fuel) :
    tokensFrom fuel cs = tokensFrom cs.length cs := by
  induction fuel using Nat.strong_induction_on generalizing cs with
  | _ fuel ih =>
      cases cs with
      | nil => cases fuel <;> rfl
      | cons c cs =>
          obtain ⟨rest, rfl⟩ : ∃ rest, fuel = rest + 1 := ⟨fuel - 1, by simp at h; omega⟩
          have hcs : cs.length ≤ rest := by simpa using h
          have hnext := nextToken_length c cs
          have hshort : ∀ ds : List Char, ds.length ≤ cs.length →
              tokensFrom rest ds = tokensFrom cs.length ds := by
            intro ds hds
            rw [ih rest (by omega) (by omega)]
            exact (ih cs.length (by omega) hds).symm
          rw [List.length_cons, tokensFrom, tokensFrom, hshort cs le_rfl, hshort _ hnext]

section TrailingSpace

variable {spaces : List Char} (h : ∀ c ∈ spaces, isWhitespace c = true)

include h

lemma takeWhile_append_spaces {p : Char → Bool} (hp : ∀ c, isWhitespace c = true → p c = false)
    (cs : List Char) : (cs ++ spaces).takeWhile p = cs.takeWhile p := by
  induction cs with
  | nil =>
      cases spaces with
      | nil => rfl
      | cons c spaces => simp [hp c (h c List.mem_cons_self)]
  | cons c cs ih => simp [List.takeWhile_cons, ih]

lemma dropWhile_append_spaces {p : Char → Bool} (hp : ∀ c, isWhitespace c = true → p c = false)
    (cs : List Char) : (cs ++ spaces).dropWhile p = cs.dropWhile p ++ spaces := by
  induction cs with
  | nil =>
      cases spaces with
      | nil => rfl
      | cons c spaces => simp [hp c (h c List.mem_cons_self)]
  | cons c cs ih =>
      by_cases hc : p c = true
      · simp [hc, ih]
      · simp [hc]

omit h in
lemma quotedToken_of_split {quote : Char} {before : List Char} (hbefore : quote ∉ before)
    (after : List Char) :
    quotedToken quote (before ++ quote :: after) = some (quote :: before ++ [quote], after) := by
  have hall : ∀ c ∈ before, decide (c ≠ quote) = true := fun c hc =>
    decide_eq_true fun hquote => hbefore (hquote ▸ hc)
  unfold quotedToken
  rw [if_pos (by simp), List.takeWhile_append_of_pos hall, List.dropWhile_append_of_pos hall]
  simp

lemma quotedToken_append_spaces {quote : Char} (hquote : isWhitespace quote = false)
    (cs : List Char) :
    quotedToken quote (cs ++ spaces) =
      (quotedToken quote cs).map fun token => (token.1, token.2 ++ spaces) := by
  by_cases hmem : quote ∈ cs
  · obtain ⟨before, after, rfl, hbefore⟩ := List.eq_append_cons_of_mem hmem
    rw [List.append_assoc, List.cons_append, quotedToken_of_split hbefore,
      quotedToken_of_split hbefore]
    rfl
  · have hnot : quote ∉ spaces := fun hin => by
      rw [h quote hin] at hquote
      cases hquote
    have hall : quote ∉ cs ++ spaces := by simp [hmem, hnot]
    unfold quotedToken
    rw [if_neg hall, if_neg hmem]
    rfl

lemma nextToken_append_spaces {c : Char} (hc : isWhitespace c = false) (cs : List Char) :
    nextToken c (cs ++ spaces) = ((nextToken c cs).1, (nextToken c cs).2 ++ spaces) := by
  have hspace : ∀ d, isWhitespace d = true → (!isWhitespace d) = false := by simp
  unfold nextToken
  dsimp only
  rw [quotedToken_append_spaces h hc, takeWhile_append_spaces h hspace,
    dropWhile_append_spaces h hspace]
  split_ifs
  · cases quotedToken c cs <;> rfl
  · rfl

lemma tokensFrom_spaces (fuel : ℕ) : tokensFrom fuel spaces = [] := by
  induction fuel generalizing spaces with
  | zero => rfl
  | succ fuel ih =>
      cases spaces with
      | nil => rfl
      | cons c spaces =>
          rw [tokensFrom, if_pos (h c List.mem_cons_self)]
          exact ih fun d hd => h d (List.mem_cons_of_mem c hd)

/-- White space after a command makes no token. -/
lemma tokensFrom_append_spaces (fuel : ℕ) (cs : List Char) :
    tokensFrom fuel (cs ++ spaces) = tokensFrom fuel cs := by
  induction fuel generalizing cs with
  | zero => rfl
  | succ fuel ih =>
      cases cs with
      | nil => exact tokensFrom_spaces h (fuel + 1)
      | cons c cs =>
          rw [List.cons_append, tokensFrom, tokensFrom]
          by_cases hc : isWhitespace c = true
          · rw [if_pos hc, if_pos hc, ih]
          · rw [if_neg hc, if_neg hc, nextToken_append_spaces h (by simpa using hc), ih]

/-- White space before a command makes none either. -/
lemma tokensFrom_spaces_append {fuel : ℕ} (cs : List Char) (hfuel : (spaces ++ cs).length ≤ fuel) :
    tokensFrom fuel (spaces ++ cs) = tokensFrom cs.length cs := by
  induction spaces generalizing fuel with
  | nil => exact tokensFrom_of_le hfuel
  | cons c spaces ih =>
      obtain ⟨rest, rfl⟩ : ∃ rest, fuel = rest + 1 := ⟨fuel - 1, by simp at hfuel; omega⟩
      rw [List.cons_append, tokensFrom, if_pos (h c List.mem_cons_self)]
      exact ih (fun d hd => h d (List.mem_cons_of_mem c hd)) (by simpa using hfuel)

end TrailingSpace

/-- What `trim` takes off a text is white space. -/
lemma trimChars_split (cs : List Char) : ∃ front back : List Char,
    (∀ c ∈ front, isWhitespace c = true) ∧ (∀ c ∈ back, isWhitespace c = true) ∧
      cs = front ++ (trimChars cs ++ back) := by
  refine ⟨cs.takeWhile isWhitespace,
    ((cs.dropWhile isWhitespace).reverse.takeWhile isWhitespace).reverse,
    fun c hc => List.mem_takeWhile_imp hc,
    fun c hc => List.mem_takeWhile_imp (List.mem_reverse.mp hc), ?_⟩
  have hback : trimChars cs ++
      ((cs.dropWhile isWhitespace).reverse.takeWhile isWhitespace).reverse =
        cs.dropWhile isWhitespace := by
    rw [trimChars, ← List.reverse_append, List.takeWhile_append_dropWhile, List.reverse_reverse]
  rw [hback, List.takeWhile_append_dropWhile]

/-- The command that is run has the words of the command that is checked. -/
lemma shellPathWords_trim (command : String) :
    shellPathWords (trim command) = shellPathWords command := by
  obtain ⟨front, back, hfront, hback, hsplit⟩ := trimChars_split command.toList
  have htokens : splitShellCommandTokens (trim command) = splitShellCommandTokens command := by
    unfold splitShellCommandTokens
    rw [trim, String.toList_ofList]
    conv_rhs => rw [hsplit]
    rw [tokensFrom_spaces_append hfront _ le_rfl, tokensFrom_append_spaces hback]
    exact (tokensFrom_of_le (by simp)).symm
  unfold shellPathWords
  rw [htokens]

/-! ## Shell commands -/

lemma word_mem_targets {params : JsonObject} {command word : String}
    (hcommand : getStringParam params "command" = some command) (hne : command ≠ "")
    (hword : word ∈ shellPathWords command) : word ∈ extractShellPathTargets params := by
  unfold extractShellPathTargets
  rw [hcommand]
  dsimp only
  rw [if_neg hne, mem_uniqueValues]
  exact List.mem_append_right _ hword

/-- A command that passes targets nothing protected, read from the directory of the process. -/
lemma targets_unprotected {actionType : ShellLikeAction} {params : JsonObject}
    {config : PathConstraintConfig} {target : String}
    (hpasses : evaluateShellLikeActionConstraints host node actionType params config = [])
    (htarget : target ∈ extractShellPathTargets params)
    (hcommand : (getStringParam params "command").getD "" ≠ "") :
    Unprotected host node target config := by
  unfold evaluateShellLikeActionConstraints at hpasses
  dsimp only at hpasses
  rw [if_neg hcommand] at hpasses
  have hnone := (List.append_eq_nil_iff.mp hpasses).2
  cases hfound : (extractShellPathTargets params).find? fun targetPath =>
      isProtectedPath host node targetPath config with
  | some found =>
      rw [hfound] at hnone
      cases hnone
  | none =>
      have hnot := List.find?_eq_none.mp hfound target htarget
      exact isProtectedPath_eq_false_iff.mp (by simpa using hnot)

/-- A shell command is guarded exactly if its working directory moves no word to a protected
path. -/
theorem shellActionGuarded_iff (actionType : ShellLikeAction) (params : JsonObject)
    (config : PathConstraintConfig) :
    ShellActionGuarded host node actionType params config ↔
      MovedWordsChecked host node actionType params config := by
  unfold ShellActionGuarded MovedWordsChecked
  refine imp_congr_right fun hpasses => forall₄_congr fun cwd _ command hcommand =>
    forall₂_congr fun word hword => ?_
  constructor
  · exact fun hunprotected _ => hunprotected
  · intro hmoved
    by_cases hsame : node.resolve cwd word = node.resolve node.cwd word
    · obtain ⟨given, hgiven, rfl, hpresent⟩ := getStringParam_of_normalize hcommand
      have hne : given ≠ "" := by
        rintro rfl
        exact hpresent rfl
      rw [shellPathWords_trim] at hword
      have hplain := targets_unprotected hpasses (word_mem_targets hgiven hne hword)
        (by rw [hgiven]; exact hne)
      have hlocation : node.resolve node.cwd (node.resolve cwd word) =
          node.resolve node.cwd word := by
        rw [hsame, node.resolve_resolve]
      exact (unprotected_congr hlocation).mpr hplain
    · exact hmoved hsame

/-! ## When nothing is moved -/

/-! ## Both families -/

/-- Where the path that is checked is the path that is used: a file action is guarded exactly if
its path passes trimmed as well, and a shell command exactly if the words that its working
directory moves are unprotected there. -/
theorem constrained_paths_used (host : Host) (node : NodePath) :
    (∀ actionType params config, FileActionGuarded host node actionType params config ↔
      PaddingChecked host node actionType params config) ∧
    ∀ actionType params config, ShellActionGuarded host node actionType params config ↔
      MovedWordsChecked host node actionType params config :=
  ⟨fileActionGuarded_iff, shellActionGuarded_iff⟩

def guardedConfig : PathConstraintConfig where
  enforceSandboxDelete := true
  enforceSandboxListDirectory := true
  allowShellCommandAction := true
  sandboxPathPrefix := "runtime/sandbox/"
  protectedPathPrefixes := ["memory/", ".env", "runtime/governance_memory.json"]
  commandMaxChars := 4000
  shellKind := "bash"
  cwdPolicy := { allowRelative := true, denyOutsideSandbox := false }

def paddedRead : JsonObject :=
  ⟨[("path", .str " memory/notes.md")], by simp [Json.DistinctKeys, Json.DistinctKeysMembers]⟩

def movedRead : JsonObject :=
  ⟨[("command", .str "cat ./governance_memory.json"), ("cwd", .str "runtime")],
    by simp [Json.DistinctKeys, Json.DistinctKeysMembers]⟩

/-- A blank before the path passes, and so does a word that the working directory completes. -/
theorem padded_and_moved_paths_pass :
    ¬ FileActionGuarded (Host.ofTables [] []) (NodePath.posix "/srv/brain") .readFile paddedRead
        guardedConfig ∧
      ¬ ShellActionGuarded (Host.ofTables [] []) (NodePath.posix "/srv/brain") .shellCommand
        movedRead guardedConfig := by
  constructor
  · intro h
    have hopened := (h (by decide) "/srv/brain/memory/notes.md" (by decide)).1
    exact absurd hopened (by decide)
  · intro h
    have hword := h (by decide) "/srv/brain/runtime" (by decide)
      "cat ./governance_memory.json" (by decide) "./governance_memory.json"
      (by decide)
    exact absurd hword (by decide)

end AgentBigBrain.Core

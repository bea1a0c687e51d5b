import AgentBigBrain.Js.JsonPath

/-!
# Threads in the path of a mutation

A mutation of the conversation stack names a thread by its key. The check before it asks for a
thread of that key; the resolution after it reads a segment of digits as an index. A mutation that
is resolved works in the one thread that the resolved index denotes.
-/
namespace AgentBigBrain.Core

open AgentBigBrain.Js

inductive MemoryConflictCodeV1 where
  | aliasCollision
  | mergeAmbiguity
  | staleThreadFrame
  | sessionSchemaMismatch
  | canonicalizationConflict
  deriving DecidableEq

inductive MemoryMutationOperationV1 where
  | upsert
  | merge
  | supersede
  | resolve
  | evict
  deriving DecidableEq

/-- A thread of a stored stack. -/
structure ThreadDocument where
  members : List (String × Json)
  threadKey : String
  members_threadKey : members.lookup "threadKey" = some (.str threadKey)

def ThreadDocument.json (thread : ThreadDocument) : Json :=
  .obj thread.members

/-- A stored stack; of its members only the threads and the version are read here. -/
structure StackDocument where
  members : List (String × Json)
  threads : List ThreadDocument
  members_schemaVersion : members.lookup "schemaVersion" = some (.str "v1")
  members_threads : members.lookup "threads" = some (.arr (threads.map ThreadDocument.json))

def StackDocument.json (stack : StackDocument) : Json :=
  .obj stack.members

variable (reading : IndexReading)

/-! ## Operations at a path -/

/-- `isPlainObjectRecord` of what a path leads to; nothing of the shared prototype is spread. -/
def recordAt : Access → Option (List (String × Json))
  | .value (.obj members) => some members
  | .sharedPrototype => some []
  | _ => none

def orConflict (write : Option PathWrite) : Except MemoryConflictCodeV1 PathWrite :=
  match write with
  | some write => .ok write
  | none => .error .canonicalizationConflict

/-- The status that `resolve` and `supersede` leave. -/
def markedStatus (operation : MemoryMutationOperationV1) : Json :=
  .str (if operation = .resolve then "resolved" else "superseded")

def applyOperationAtPath (root : Json) (operation : MemoryMutationOperationV1) (path : List String)
    (payload : List (String × Json)) : Except MemoryConflictCodeV1 PathWrite :=
  if path = [] then .error .canonicalizationConflict
  else
    match operation with
    | .upsert => orConflict (root.setPath reading path (.obj payload))
    | .merge =>
        match recordAt (root.readPath reading path) with
        | none => .error .mergeAmbiguity
        | some existing =>
            orConflict (root.setPath reading path (.obj (JsonObject.setMembers existing payload)))
    | .resolve | .supersede =>
        match recordAt (root.readPath reading path) with
        | some existing => orConflict (root.setPath reading path
            (.obj (JsonObject.setMember "status" (markedStatus operation) existing)))
        | none => orConflict (root.setPath reading path (.obj payload))
    | .evict => orConflict (root.deletePath reading path)

/-! ## Resolution -/

def validateConversationStackMutation (stack : StackDocument) (mutationPath : List String) :
    Option MemoryConflictCodeV1 :=
  if stack.members.lookup "schemaVersion" = some (.str "v1") then
    match mutationPath with
    | "threads" :: threadKey :: _ =>
        if stack.threads.any fun thread => thread.threadKey = threadKey then none
        else some .staleThreadFrame
    | _ => none
  else some .sessionSchemaMismatch

/-- `/^\d+$/`. -/
def isIntegerPathSegment (segment : String) : Bool :=
  !segment.toList.isEmpty && segment.toList.all Char.isDigit

structure ConversationStackPathResolutionV1 where
  resolvedPath : List String
  conflict : Option MemoryConflictCodeV1

def resolveConversationStackMutationPath (stack : StackDocument) (mutationPath : List String) :
    ConversationStackPathResolutionV1 :=
  match validateConversationStackMutation stack mutationPath with
  | some conflict => ⟨mutationPath, some conflict⟩
  | none =>
      match mutationPath with
      | "threads" :: threadSegment :: rest =>
          if isIntegerPathSegment threadSegment then
            if digitsValue threadSegment.toList < stack.threads.length then ⟨mutationPath, none⟩
            else ⟨mutationPath, some .staleThreadFrame⟩
          else
            let threadIndex := stack.threads.findIdx fun thread => thread.threadKey = threadSegment
            if threadIndex < stack.threads.length then
              ⟨"threads" :: toString threadIndex :: rest, none⟩
            else ⟨mutationPath, some .staleThreadFrame⟩
      | _ => ⟨mutationPath, none⟩

/-! ## What a segment denotes -/

/-- The thread at the index has the segment as its key, or the segment is the index. -/
def Denotes (stack : StackDocument) (segment : String) (index : ℕ) : Prop :=
  ∃ thread, stack.threads[index]? = some thread ∧
    (thread.threadKey = segment ∨
      isIntegerPathSegment segment = true ∧ digitsValue segment.toList = index)

/-- The path is accepted, and what it is resolved to leads to the thread at the index. -/
def ResolvesTo (stack : StackDocument) (segment : String) (rest : List String) (index : ℕ) : Prop :=
  index < stack.threads.length ∧
    ∃ indexSegment, reading.index indexSegment = some index ∧
      resolveConversationStackMutationPath stack ("threads" :: segment :: rest) =
        ⟨"threads" :: indexSegment :: rest, none⟩

def HasThread (stack : StackDocument) (segment : String) : Prop :=
  ∃ thread ∈ stack.threads, thread.threadKey = segment

/-- The index at which the code looks for the thread of a segment. -/
def lookupIndex (stack : StackDocument) (segment : String) : ℕ :=
  if isIntegerPathSegment segment then digitsValue segment.toList
  else stack.threads.findIdx fun thread => thread.threadKey = segment

variable {reading} {stack : StackDocument} {segment : String} {rest : List String}

lemma validate_eq_none_iff :
    validateConversationStackMutation stack ("threads" :: segment :: rest) = none ↔
      HasThread stack segment := by
  unfold validateConversationStackMutation HasThread
  rw [if_pos stack.members_schemaVersion]
  simp

lemma validate_of_no_thread (h : ¬ HasThread stack segment) :
    validateConversationStackMutation stack ("threads" :: segment :: rest) =
      some .staleThreadFrame := by
  unfold validateConversationStackMutation
  unfold HasThread at h
  rw [if_pos stack.members_schemaVersion]
  simpa using h

lemma index_of_integer (h : isIntegerPathSegment segment = true) :
    reading.index segment = some (digitsValue segment.toList) := by
  simp only [isIntegerPathSegment, Bool.and_eq_true, Bool.not_eq_true',
    List.isEmpty_eq_false_iff, List.all_eq_true] at h
  exact reading.index_digits segment h.1 h.2

lemma index_toString (n : ℕ) : reading.index (toString n) = some n := by
  have htext : (toString n).toList = Nat.toDigits 10 n := by
    rw [Nat.toString_eq_ofList_toDigits, String.toList_ofList]
  have hindex := reading.index_digits (toString n) (by rw [htext]; exact Nat.toDigits_ne_nil)
    (by
      rw [htext]
      exact fun c hc => Nat.isDigit_of_mem_toDigits (by decide) (by decide) hc)
  rwa [htext, digitsValue_toDigits] at hindex

/-- A segment resolves to one index at most: the one the code looks at. -/
lemma resolvesTo_iff {index : ℕ} :
    ResolvesTo reading stack segment rest index ↔
      HasThread stack segment ∧ index = lookupIndex stack segment ∧
        index < stack.threads.length := by
  by_cases hthread : HasThread stack segment
  · have hvalid := (@validate_eq_none_iff stack segment rest).mpr hthread
    unfold ResolvesTo resolveConversationStackMutationPath lookupIndex
    rw [hvalid]
    by_cases hinteger : isIntegerPathSegment segment = true
    · simp only [hinteger, if_true]
      constructor
      · rintro ⟨hlt, indexSegment, hindex, hpath⟩
        split_ifs at hpath with hbound
        · simp only [ConversationStackPathResolutionV1.mk.injEq, List.cons.injEq, and_true,
            true_and] at hpath
          rw [← hpath, index_of_integer hinteger] at hindex
          exact ⟨hthread, (Option.some.inj hindex).symm, hlt⟩
        · simp at hpath
      · rintro ⟨-, rfl, hlt⟩
        exact ⟨hlt, segment, index_of_integer hinteger, by rw [if_pos hlt]⟩
    · simp only [hinteger]
      have hfound : (stack.threads.findIdx fun thread => thread.threadKey = segment) <
          stack.threads.length := by
        obtain ⟨thread, hmem, hkey⟩ := hthread
        exact List.findIdx_lt_length_of_exists ⟨thread, hmem, by simpa using hkey⟩
      simp only [Bool.false_eq_true, if_false, if_pos hfound]
      constructor
      · rintro ⟨hlt, indexSegment, hindex, hpath⟩
        simp only [ConversationStackPathResolutionV1.mk.injEq, List.cons.injEq, and_true,
          true_and] at hpath
        rw [← hpath, index_toString] at hindex
        exact ⟨hthread, (Option.some.inj hindex).symm, hlt⟩
      · rintro ⟨-, rfl, hlt⟩
        exact ⟨hlt, _, index_toString _, rfl⟩
  · refine iff_of_false ?_ fun h => hthread h.1
    rintro ⟨-, indexSegment, -, hpath⟩
    unfold resolveConversationStackMutationPath at hpath
    rw [validate_of_no_thread hthread] at hpath
    simp at hpath

/-! ## The operation in the thread -/

/-- The stack with another list of threads. -/
def withThreads (stack : StackDocument) (threads : List Json) : Json :=
  .obj (JsonObject.setMember "threads" (.arr threads) stack.members)

def withThread (stack : StackDocument) (index : ℕ) (thread : Json) : Json :=
  withThreads stack ((stack.threads.map ThreadDocument.json).set index thread)

variable (reading) in
/-- The operation on the thread itself where the path ends at it, else at the rest of the path. -/
def operationInThread (stack : StackDocument) (index : ℕ) (thread : ThreadDocument)
    (operation : MemoryMutationOperationV1) (rest : List String) (payload : List (String × Json)) :
    Except MemoryConflictCodeV1 PathWrite :=
  if rest = [] then
    .ok <| .stored <|
      match operation with
      | .upsert => withThread stack index (.obj payload)
      | .merge => withThread stack index (.obj (JsonObject.setMembers thread.members payload))
      | .resolve | .supersede => withThread stack index
          (.obj (JsonObject.setMember "status" (markedStatus operation) thread.members))
      | .evict => withThreads stack ((stack.threads.map ThreadDocument.json).eraseIdx index)
  else
    (applyOperationAtPath reading thread.json operation rest payload).map
      (PathWrite.within (withThread stack index))

variable {index : ℕ} {thread : ThreadDocument} {indexSegment : String}

lemma access_threads :
    stack.json.access reading "threads" =
      .value (.arr (stack.threads.map ThreadDocument.json)) := by
  unfold StackDocument.json Json.access
  simp only [stack.members_threads]

lemma access_thread (hindex : reading.index indexSegment = some index)
    (hthread : stack.threads[index]? = some thread) :
    (Json.arr (stack.threads.map ThreadDocument.json)).access reading indexSegment =
      .value thread.json := by
  unfold Json.access
  simp [hindex, hthread]

lemma setPath_thread (hindex : reading.index indexSegment = some index)
    (hthread : stack.threads[index]? = some thread) (value : Json) :
    stack.json.setPath reading ("threads" :: indexSegment :: rest) value =
      if rest = [] then some (.stored (withThread stack index value))
      else (thread.json.setPath reading rest value).map
        (PathWrite.within (withThread stack index)) := by
  have hlt : index < stack.threads.length := (List.getElem?_eq_some_iff.mp hthread).1
  rw [Json.setPath_cons access_threads (List.cons_ne_nil _ _)]
  by_cases hrest : rest = []
  · subst hrest
    simp [Json.setPath, Json.setTerminal, hindex, hlt, PathWrite.within, withThread, withThreads,
      Json.withChild, StackDocument.json]
  · rw [Json.setPath_cons (access_thread hindex hthread) hrest, if_neg hrest, Option.map_map]
    congr 1
    funext write
    cases write with
    | stored child =>
        simp [PathWrite.within, withThread, withThreads, Json.withChild, StackDocument.json, hindex]
    | escaped => rfl

lemma deletePath_thread (hindex : reading.index indexSegment = some index)
    (hthread : stack.threads[index]? = some thread) :
    stack.json.deletePath reading ("threads" :: indexSegment :: rest) =
      if rest = [] then
        some (.stored (withThreads stack ((stack.threads.map ThreadDocument.json).eraseIdx index)))
      else (thread.json.deletePath reading rest).map
        (PathWrite.within (withThread stack index)) := by
  have hlt : index < stack.threads.length := (List.getElem?_eq_some_iff.mp hthread).1
  rw [Json.deletePath_cons access_threads (List.cons_ne_nil _ _)]
  by_cases hrest : rest = []
  · subst hrest
    simp [Json.deletePath, Json.deleteTerminal, hindex, hlt, PathWrite.within, withThreads,
      Json.withChild, StackDocument.json]
  · rw [Json.deletePath_cons (access_thread hindex hthread) hrest, if_neg hrest, Option.map_map]
    congr 1
    funext write
    cases write with
    | stored child =>
        simp [PathWrite.within, withThread, withThreads, Json.withChild, StackDocument.json, hindex]
    | escaped => rfl

lemma readPath_thread (hindex : reading.index indexSegment = some index)
    (hthread : stack.threads[index]? = some thread) :
    stack.json.readPath reading ("threads" :: indexSegment :: rest) =
      thread.json.readPath reading rest := by
  rw [Json.readPath_cons access_threads, Json.readPath_cons (access_thread hindex hthread)]

lemma orConflict_map (write : Option PathWrite) (put : Json → Json) :
    orConflict (write.map (PathWrite.within put)) =
      (orConflict write).map (PathWrite.within put) := by
  cases write <;> rfl

/-- A mutation below a thread is the mutation of that thread, and of nothing else. -/
theorem applyOperationAtPath_thread (hindex : reading.index indexSegment = some index)
    (hthread : stack.threads[index]? = some thread) (operation : MemoryMutationOperationV1)
    (payload : List (String × Json)) :
    applyOperationAtPath reading stack.json operation ("threads" :: indexSegment :: rest) payload =
      operationInThread reading stack index thread operation rest payload := by
  unfold operationInThread applyOperationAtPath
  rw [if_neg (List.cons_ne_nil _ _)]
  simp only [readPath_thread hindex hthread, setPath_thread hindex hthread,
    deletePath_thread hindex hthread]
  by_cases hrest : rest = []
  · subst hrest
    cases operation <;> rfl
  · simp only [if_neg hrest, orConflict_map]
    cases operation with
    | upsert => rfl
    | evict => rfl
    | merge => cases recordAt (thread.json.readPath reading rest) <;> rfl
    | resolve => cases recordAt (thread.json.readPath reading rest) <;> rfl
    | supersede => cases recordAt (thread.json.readPath reading rest) <;> rfl

variable (reading) in
/-- The path is accepted, and every mutation made by it is the mutation of the thread. -/
def MutatesThread (stack : StackDocument) (segment : String) (rest : List String) (index : ℕ) :
    Prop :=
  ResolvesTo reading stack segment rest index ∧
    ∀ thread ∈ stack.threads[index]?, ∀ operation payload,
      applyOperationAtPath reading stack.json operation
          (resolveConversationStackMutationPath stack ("threads" :: segment :: rest)).resolvedPath
          payload =
        operationInThread reading stack index thread operation rest payload

lemma mutatesThread_iff :
    MutatesThread reading stack segment rest index ↔
      ResolvesTo reading stack segment rest index := by
  refine ⟨fun h => h.1, fun h => ⟨h, fun thread hthread operation payload => ?_⟩⟩
  obtain ⟨-, indexSegment, hindex, hpath⟩ := h
  rw [hpath]
  exact applyOperationAtPath_thread hindex hthread operation payload

/-- One thread has the key, and if the key is all digits it is the index of that thread too. -/
def AddressedOnce (stack : StackDocument) (segment : String) : Prop :=
  ∀ index, Denotes stack segment index →
    (∀ other, (stack.threads[other]?.any fun thread => thread.threadKey = segment) = true ↔
      other = index) ∧
    (isIntegerPathSegment segment = true → digitsValue segment.toList = index)

lemma keyAt_iff {index : ℕ} :
    (stack.threads[index]?.any fun thread => thread.threadKey = segment) = true ↔
      ∃ thread, stack.threads[index]? = some thread ∧ thread.threadKey = segment := by
  simp [Option.any_eq_true]

lemma denoted_iff_addressedOnce :
    (∀ index, Denotes stack segment index →
      HasThread stack segment ∧ index = lookupIndex stack segment ∧
        index < stack.threads.length) ↔ AddressedOnce stack segment := by
  constructor
  · intro hall index hdenotes
    obtain ⟨⟨thread, hmem, hkey⟩, hindex, -⟩ := hall index hdenotes
    -- Whatever index has the key is looked up, and so is the denoted one.
    have honly : ∀ other thread, stack.threads[other]? = some thread →
        thread.threadKey = segment → other = index := fun other thread hother hotherKey =>
      (hall other ⟨thread, hother, Or.inl hotherKey⟩).2.1.trans hindex.symm
    refine ⟨fun other => ⟨fun hother => ?_, ?_⟩, fun hinteger => ?_⟩
    · obtain ⟨found, hfound, hfoundKey⟩ := keyAt_iff.mp hother
      exact honly other found hfound hfoundKey
    · rintro rfl
      obtain ⟨place, hplace⟩ := List.mem_iff_getElem?.mp hmem
      rw [← honly place thread hplace hkey]
      exact keyAt_iff.mpr ⟨thread, hplace, hkey⟩
    · rw [hindex, lookupIndex, if_pos hinteger]
  · intro honce index hdenotes
    obtain ⟨honly, hinteger⟩ := honce index hdenotes
    obtain ⟨thread, hthread, hkey⟩ := keyAt_iff.mp ((honly index).mpr rfl)
    obtain ⟨hlt, hat⟩ := List.getElem?_eq_some_iff.mp hthread
    have hmem : thread ∈ stack.threads := hat ▸ List.getElem_mem hlt
    refine ⟨⟨thread, hmem, hkey⟩, ?_, hlt⟩
    unfold lookupIndex
    split_ifs with hdigits
    · exact (hinteger hdigits).symm
    · have hfound : (stack.threads.findIdx fun thread => thread.threadKey = segment) <
          stack.threads.length :=
        List.findIdx_lt_length_of_exists ⟨thread, hmem, by simpa using hkey⟩
      have hfoundKey := List.findIdx_getElem (w := hfound)
      refine ((honly _).mp (keyAt_iff.mpr ⟨_, List.getElem?_eq_getElem hfound, ?_⟩)).symm
      simpa using hfoundKey

/-- Paths reach the threads that they denote exactly where keys are unambiguous, and a segment that
denotes nothing is always blocked. -/
theorem paths_reach_threads_iff (reading : IndexReading) (stack : StackDocument) (segment : String)
    (rest : List String) :
    ((∀ index, ¬ Denotes stack segment index) →
      (resolveConversationStackMutationPath stack ("threads" :: segment :: rest)).conflict =
        some .staleThreadFrame) ∧
    ((∀ index, Denotes stack segment index → MutatesThread reading stack segment rest index) ↔
      AddressedOnce stack segment) := by
  constructor
  · intro hnone
    have hno : ¬ HasThread stack segment := by
      rintro ⟨thread, hmem, hkey⟩
      obtain ⟨index, hindex⟩ := List.mem_iff_getElem?.mp hmem
      exact hnone index ⟨thread, hindex, Or.inl hkey⟩
    unfold resolveConversationStackMutationPath
    rw [validate_of_no_thread hno]
  · simp only [mutatesThread_iff, resolvesTo_iff]
    exact denoted_iff_addressedOnce

def keyedThread (threadKey : String) : ThreadDocument where
  members := [("threadKey", .str threadKey), ("openLoops", .arr [])]
  threadKey := threadKey
  members_threadKey := rfl

def keyedStack (threadKeys : List String) : StackDocument where
  members := [("schemaVersion", .str "v1"),
    ("threads", .arr ((threadKeys.map keyedThread).map ThreadDocument.json))]
  threads := threadKeys.map keyedThread
  members_schemaVersion := rfl
  members_threads := rfl

/-- An index is blocked, and a key of digits leads to the thread at that index instead. -/
theorem index_blocked_and_key_misread :
    ¬ (∀ index, Denotes (keyedStack ["alpha"]) "0" index →
        MutatesThread .digits (keyedStack ["alpha"]) "0" [] index) ∧
    ¬ (∀ index, Denotes (keyedStack ["1", "alpha"]) "1" index →
        MutatesThread .digits (keyedStack ["1", "alpha"]) "1" [] index) := by
  constructor
  · intro h
    have hdenotes : Denotes (keyedStack ["alpha"]) "0" 0 :=
      ⟨keyedThread "alpha", rfl, Or.inr (by decide)⟩
    obtain ⟨thread, hmem, hkey⟩ := (resolvesTo_iff.mp (h 0 hdenotes).1).1
    have hthread : thread = keyedThread "alpha" := List.mem_singleton.mp hmem
    rw [hthread] at hkey
    exact absurd hkey (by decide)
  · intro h
    have hdenotes : Denotes (keyedStack ["1", "alpha"]) "1" 0 :=
      ⟨keyedThread "1", rfl, Or.inl rfl⟩
    have hindex := (resolvesTo_iff.mp (h 0 hdenotes).1).2.1
    exact absurd hindex (by decide)

end AgentBigBrain.Core

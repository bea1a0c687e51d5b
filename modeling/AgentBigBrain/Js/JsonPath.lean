import AgentBigBrain.Js.Persisted

/-!
# Values at a path

A path leads through the members of objects and the elements of arrays; an element is named by
a text that reads as its index. A step along `__proto__`, where an object has no member of that
name, leaves the value and reaches the prototype that all objects share.
-/
namespace AgentBigBrain.Js

/-- How the texts of a path read as indices: `Number(text)` where it is a natural number. -/
structure IndexReading where
  index : String → Option ℕ
  index_digits : ∀ text : String, text.toList ≠ [] → (∀ c ∈ text.toList, c.isDigit = true) →
    index text = some (digitsValue text.toList)

/-- Digits alone are read as indices. -/
def IndexReading.digits : IndexReading where
  index text := if !text.toList.isEmpty && text.toList.all Char.isDigit then
    some (digitsValue text.toList) else none
  index_digits text hne hdigits := by
    have hall : text.toList.all Char.isDigit = true := List.all_eq_true.mpr hdigits
    have hnonempty : text.toList.isEmpty = false := by simpa using hne
    rw [hall, hnonempty]
    rfl

/-- What stands behind `object[segment]`; what cannot be walked through is nothing. -/
inductive Access where
  | nothing
  | value (child : Json)
  | sharedPrototype

/-- What a write leaves: another value, or this one and a changed prototype. -/
inductive PathWrite where
  | stored (root : Json)
  | escaped

namespace PathWrite

/-- The write seen from the value it was made in. -/
def within (put : Json → Json) : PathWrite → PathWrite
  | stored child => stored (put child)
  | escaped => escaped

end PathWrite

/-- The names that every object inherits. -/
def OBJECT_PROTOTYPE_NAMES : List String :=
  ["__proto__", "__defineGetter__", "__defineSetter__", "__lookupGetter__", "__lookupSetter__",
    "constructor", "hasOwnProperty", "isPrototypeOf", "propertyIsEnumerable", "toLocaleString",
    "toString", "valueOf"]

namespace Json

variable (reading : IndexReading)

def access (x : Json) (segment : String) : Access :=
  match x with
  | .arr elems =>
      match (reading.index segment).bind (elems[·]?) with
      | some child => .value child
      | none => .nothing
  | .obj members =>
      match members.lookup segment with
      | some child => .value child
      | none => if segment = "__proto__" then .sharedPrototype else .nothing
  | _ => .nothing

/-- The value with another child behind the segment. -/
def withChild (x : Json) (segment : String) (child : Json) : Json :=
  match x with
  | .arr elems =>
      match reading.index segment with
      | some index => .arr (elems.set index child)
      | none => .arr elems
  | .obj members => .obj (JsonObject.setMember segment child members)
  | x => x

/-- `readPathValue`; inherited functions are read as nothing. -/
def readPath : Json → List String → Access
  | x, [] => .value x
  | x, segment :: path =>
      match x.access reading segment with
      | .value child => readPath child path
      | .sharedPrototype => if path = [] then .sharedPrototype else .nothing
      | .nothing => .nothing

/-- The last step of `setPathValue`; assigning `__proto__` changes the prototype of the object. -/
def setTerminal (x : Json) (terminal : String) (value : Json) : Option PathWrite :=
  match x with
  | .arr elems =>
      (reading.index terminal).bind fun index =>
        if index < elems.length then some (.stored (.arr (elems.set index value))) else none
  | .obj members =>
      if terminal = "__proto__" ∧ members.lookup terminal = none then some .escaped
      else some (.stored (.obj (JsonObject.setMember terminal value members)))
  | _ => none

/-- `setPathValue`. -/
def setPath : Json → List String → Json → Option PathWrite
  | _, [], _ => none
  | x, [terminal], value => x.setTerminal reading terminal value
  | x, segment :: next :: path, value =>
      match x.access reading segment with
      | .value child =>
          (setPath child (next :: path) value).map (·.within (x.withChild reading segment))
      | .sharedPrototype => if path = [] then some .escaped else none
      | .nothing => none

/-- The last step of `deletePathValue`; deleting an inherited name succeeds and does nothing. -/
def deleteTerminal (x : Json) (terminal : String) : Option PathWrite :=
  match x with
  | .arr elems =>
      (reading.index terminal).bind fun index =>
        if index < elems.length then some (.stored (.arr (elems.eraseIdx index))) else none
  | .obj members =>
      if (members.lookup terminal).isSome then
        some (.stored (.obj (members.filter fun member => member.1 ≠ terminal)))
      else if terminal ∈ OBJECT_PROTOTYPE_NAMES then some (.stored (.obj members))
      else none
  | _ => none

/-- `deletePathValue`. -/
def deletePath : Json → List String → Option PathWrite
  | _, [] => none
  | x, [terminal] => x.deleteTerminal reading terminal
  | x, segment :: next :: path =>
      match x.access reading segment with
      | .value child =>
          (deletePath child (next :: path)).map (·.within (x.withChild reading segment))
      | .sharedPrototype =>
          if path = [] ∧ next ∈ OBJECT_PROTOTYPE_NAMES then some .escaped else none
      | .nothing => none

variable {reading}

lemma setPath_cons {x child : Json} {segment : String}
    (haccess : x.access reading segment = .value child) {path : List String} (hpath : path ≠ [])
    (value : Json) :
    x.setPath reading (segment :: path) value =
      (child.setPath reading path value).map (·.within (x.withChild reading segment)) := by
  cases path with
  | nil => exact absurd rfl hpath
  | cons next path =>
      rw [setPath, haccess]

lemma deletePath_cons {x child : Json} {segment : String}
    (haccess : x.access reading segment = .value child) {path : List String} (hpath : path ≠ []) :
    x.deletePath reading (segment :: path) =
      (child.deletePath reading path).map (·.within (x.withChild reading segment)) := by
  cases path with
  | nil => exact absurd rfl hpath
  | cons next path =>
      rw [deletePath, haccess]

lemma readPath_cons {x child : Json} {segment : String}
    (haccess : x.access reading segment = .value child) (path : List String) :
    x.readPath reading (segment :: path) = child.readPath reading path := by
  rw [readPath, haccess]

end Json

end AgentBigBrain.Js

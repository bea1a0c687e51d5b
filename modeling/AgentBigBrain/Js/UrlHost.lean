import AgentBigBrain.Js.Host

/-!
# Hosts of URLs

What the URL parser makes of a host, and the text it prints it as: an IPv4 address as four
decimal octets, an IPv6 address in brackets with its longest run of zero pieces contracted,
every other host as a name.
-/
namespace AgentBigBrain.Js

instance instNeZeroOctet : NeZero 256 := ⟨by decide⟩

structure Ipv4Address where
  first : Fin 256
  second : Fin 256
  third : Fin 256
  fourth : Fin 256
  deriving DecidableEq

structure Ipv6Address where
  pieces : List (Fin 65536)
  length_pieces : pieces.length = 8
  deriving DecidableEq

namespace Ipv4Address

def chars (address : Ipv4Address) : List Char :=
  Nat.toDigits 10 address.first ++ '.' :: (Nat.toDigits 10 address.second ++
    '.' :: (Nat.toDigits 10 address.third ++ '.' :: Nat.toDigits 10 address.fourth))

def isLoopback (address : Ipv4Address) : Bool := address.first = 127

def isUnspecified (address : Ipv4Address) : Bool := address = ⟨0, 0, 0, 0⟩

def isLinkLocal (address : Ipv4Address) : Bool := address.first = 169 && address.second = 254

/-- `10/8`, `172.16/12` or `192.168/16`. -/
def isPrivate (address : Ipv4Address) : Bool :=
  address.first = 10 || (address.first = 172 && 16 ≤ address.second && address.second ≤ 31) ||
    (address.first = 192 && address.second = 168)

def isInternal (address : Ipv4Address) : Bool :=
  address.isLoopback || address.isUnspecified || address.isLinkLocal || address.isPrivate

end Ipv4Address

namespace Ipv6Address

/-- How many zero pieces stand at the start. -/
def leadingZeros (pieces : List (Fin 65536)) : ℕ :=
  (pieces.takeWhile (· = 0)).length

/-- The place and length of the first longest run of zero pieces; a single one is not contracted. -/
def contractedRun (pieces : List (Fin 65536)) : Option (ℕ × ℕ) :=
  let runs := (List.range pieces.length).map fun index => leadingZeros (pieces.drop index)
  let longest := runs.foldl max 0
  if longest ≤ 1 then none else some (runs.findIdx (· = longest), longest)

def hexPieces (pieces : List (Fin 65536)) : List Char :=
  [':'].intercalate (pieces.map fun piece => Nat.toDigits 16 piece)

def chars (address : Ipv6Address) : List Char :=
  '[' :: ((match contractedRun address.pieces with
    | none => hexPieces address.pieces
    | some (index, length) => hexPieces (address.pieces.take index) ++
        ':' :: ':' :: hexPieces (address.pieces.drop (index + length))) ++ [']'])

def isLoopback (address : Ipv6Address) : Bool := address.pieces = [0, 0, 0, 0, 0, 0, 0, 1]

def isUnspecified (address : Ipv6Address) : Bool := address.pieces = [0, 0, 0, 0, 0, 0, 0, 0]

/-- `fc00::/7`. -/
def isUniqueLocal (address : Ipv6Address) : Bool :=
  address.pieces.head?.any fun piece => 0xfc00 ≤ piece && piece ≤ 0xfdff

/-- `fe80::/10`. -/
def isLinkLocal (address : Ipv6Address) : Bool :=
  address.pieces.head?.any fun piece => 0xfe80 ≤ piece && piece ≤ 0xfebf

/-- The address that is mapped into `::ffff:0:0/96`. -/
def mapped? (address : Ipv6Address) : Option Ipv4Address :=
  match address.pieces with
  | [0, 0, 0, 0, 0, 0xffff, high, low] =>
      some ⟨⟨high / 256, by omega⟩, ⟨high % 256, by omega⟩, ⟨low / 256, by omega⟩,
        ⟨low % 256, by omega⟩⟩
  | _ => none

def isInternal (address : Ipv6Address) : Bool :=
  address.isLoopback || address.isUnspecified || address.isUniqueLocal || address.isLinkLocal ||
    address.mapped?.any Ipv4Address.isInternal

end Ipv6Address

/-- A host as the parser reads it. -/
inductive UrlHost where
  | ipv4 (address : Ipv4Address)
  | ipv6 (address : Ipv6Address)
  | name (text : String)

namespace UrlHost

/-- The `hostname` of a URL with the host. -/
def hostname : UrlHost → String
  | ipv4 address => String.ofList address.chars
  | ipv6 address => String.ofList address.chars
  | name text => text

/-- The machine itself, its link or a private network. -/
def isInternal : UrlHost → Bool
  | ipv4 address => address.isInternal
  | ipv6 address => address.isInternal
  | name text => text = "localhost" || text = "localhost."

end UrlHost

example : (UrlHost.ipv6 ⟨[0, 0, 0, 0, 0, 0, 0, 1], rfl⟩).hostname = "[::1]" := by decide

example : (UrlHost.ipv6 ⟨[0x2001, 0xdb8, 0, 1, 0, 0, 0, 1], rfl⟩).hostname =
    "[2001:db8:0:1::1]" := by decide

/-! ## Characters of printed addresses -/

lemma mem_ipv4_chars {address : Ipv4Address} {c : Char} (h : c ∈ address.chars) :
    c.isDigit = true ∨ c = '.' := by
  have hdigit : ∀ n : ℕ, c ∈ Nat.toDigits 10 n → c.isDigit = true :=
    fun n hn => Nat.isDigit_of_mem_toDigits (by decide) (by decide) hn
  simp only [Ipv4Address.chars, List.mem_append, List.mem_cons] at h
  rcases h with h | h | h | h | h | h | h
  · exact Or.inl (hdigit _ h)
  · exact Or.inr h
  · exact Or.inl (hdigit _ h)
  · exact Or.inr h
  · exact Or.inl (hdigit _ h)
  · exact Or.inr h
  · exact Or.inl (hdigit _ h)

def isHexChar (c : Char) : Bool :=
  c.isDigit || ('a' ≤ c && c ≤ 'f')

lemma isHexChar_digitChar {n : ℕ} (h : n < 16) : isHexChar (Nat.digitChar n) = true := by
  have hall : (List.range 16).all (fun n => isHexChar (Nat.digitChar n)) = true := by decide
  exact List.all_eq_true.mp hall n (List.mem_range.mpr h)

lemma isHexChar_of_mem_toDigits {n : ℕ} {c : Char} (h : c ∈ Nat.toDigits 16 n) :
    isHexChar c = true := by
  induction n using Nat.strongRecOn with
  | ind n ih =>
      by_cases hsmall : n < 16
      · rw [Nat.toDigits_of_lt_base hsmall, List.mem_singleton] at h
        rw [h]
        exact isHexChar_digitChar hsmall
      · rw [Nat.toDigits_of_base_le (by decide) (by omega), List.mem_append,
          List.mem_singleton] at h
        rcases h with h | h
        · exact ih (n / 16) (by omega) h
        · rw [h]
          exact isHexChar_digitChar (Nat.mod_lt n (by decide))

lemma mem_hexPieces {pieces : List (Fin 65536)} {c : Char}
    (h : c ∈ Ipv6Address.hexPieces pieces) : isHexChar c = true ∨ c = ':' := by
  induction pieces with
  | nil => simp [Ipv6Address.hexPieces, List.intercalate] at h
  | cons piece pieces ih =>
      cases pieces with
      | nil =>
          have hpiece : c ∈ Nat.toDigits 16 piece := by
            simpa [Ipv6Address.hexPieces, List.intercalate] using h
          exact Or.inl (isHexChar_of_mem_toDigits hpiece)
      | cons next rest =>
          have hparts : c ∈ Nat.toDigits 16 piece ∨ c = ':' ∨
              c ∈ Ipv6Address.hexPieces (next :: rest) := by
            simpa [Ipv6Address.hexPieces, List.intercalate] using h
          rcases hparts with hpiece | hcolon | hrest
          · exact Or.inl (isHexChar_of_mem_toDigits hpiece)
          · exact Or.inr hcolon
          · exact ih hrest

lemma mem_ipv6_chars {address : Ipv6Address} {c : Char} (h : c ∈ address.chars) :
    isHexChar c = true ∨ c ∈ [':', '[', ']'] := by
  unfold Ipv6Address.chars at h
  rcases List.mem_cons.mp h with h | h
  · simp [h]
  rcases List.mem_append.mp h with h | h
  · split at h
    · rcases mem_hexPieces h with hhex | hcolon
      · exact Or.inl hhex
      · simp [hcolon]
    · rcases List.mem_append.mp h with h | h
      · rcases mem_hexPieces h with hhex | hcolon
        · exact Or.inl hhex
        · simp [hcolon]
      · rcases List.mem_cons.mp h with h | h
        · simp [h]
        rcases List.mem_cons.mp h with h | h
        · simp [h]
        rcases mem_hexPieces h with hhex | hcolon
        · exact Or.inl hhex
        · simp [hcolon]
  · simp [List.mem_singleton.mp h]

lemma ipv6_chars_brackets (address : Ipv6Address) :
    ∃ inner, address.chars = '[' :: (inner ++ [']']) :=
  ⟨_, rfl⟩

end AgentBigBrain.Js

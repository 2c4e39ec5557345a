import Countersign.Text.Split
import Countersign.Text.Utf8

/-! Header maps. Names are kept in lower case and looked up in any case; a name may repeat, and its
first value is the one that is read. -/
namespace Countersign

/-- In the order of insertion, names in lower case. -/
structure Headers where
  entries : List (String × Bytes)
deriving DecidableEq, Repr

namespace Headers

/-- A byte that a header value may hold: a tab, or anything else that is no control. -/
def isValueByte (b : UInt8) : Bool := b == 0x09 || (0x20 ≤ b && b != 0x7f)

/-- A byte that a value may hold to be read as text: a tab or printable ASCII. -/
def isTextByte (b : UInt8) : Bool := b == 0x09 || (0x20 ≤ b && b < 0x7f)

/-- The characters of names and methods. -/
def isTokenChar (c : Char) : Bool := c.isAlphanum || "!#$%&'*+-.^_`|~".toList.contains c

def isToken (s : String) : Bool := !s.toList.isEmpty && s.toList.all isTokenChar

def empty : Headers := ⟨[]⟩

def get? (h : Headers) (name : String) : Option Bytes := h.entries.lookup (Text.lower name)

/-- A value as text, if all its bytes are text. -/
def textOf? (value : Bytes) : Option String :=
  if value.all isTextByte then some (String.ofList (value.map fun b => Char.ofNat b.toNat)) else none

/-- A text as a value, if it holds no control but tabs. -/
def valueOf? (text : String) : Option Bytes :=
  let bytes := bytesOf text
  if bytes.all isValueByte then some bytes else none

def text? (h : Headers) (name : String) : Option String := (h.get? name).bind textOf?

/-- Adds one more value. -/
def append (h : Headers) (name : String) (value : Bytes) : Headers :=
  ⟨h.entries ++ [(Text.lower name, value)]⟩

def remove (h : Headers) (name : String) : Headers :=
  ⟨h.entries.filter (·.1 != Text.lower name)⟩

/-- The value takes the place of all earlier ones. -/
def insert (h : Headers) (name : String) (value : Bytes) : Headers :=
  (h.remove name).append name value

/-- Present with at least one byte. -/
def isGiven (h : Headers) (name : String) : Bool := (h.get? name).any (!·.isEmpty)

@[simp] theorem get?_empty (name : String) : empty.get? name = none := rfl

theorem lookup_filter_ne {name other : String} {entries : List (String × Bytes)}
    (h : other ≠ name) :
    (entries.filter (·.1 != name)).lookup other = entries.lookup other := by
  induction entries with
  | nil => rfl
  | cons entry rest ih =>
    obtain ⟨key, value⟩ := entry
    by_cases hk : key = name
    · subst hk
      have : (other == key) = false := by simpa using h
      simp [List.lookup_cons, this, ih]
    · by_cases ho : other = key
      · subst ho; simp [hk]
      · have : (other == key) = false := by simpa using ho
        simp [hk, List.lookup_cons, this, ih]

theorem lookup_filter_self {name : String} {entries : List (String × Bytes)} :
    (entries.filter (·.1 != name)).lookup name = none := by
  induction entries with
  | nil => rfl
  | cons entry rest ih =>
    obtain ⟨key, value⟩ := entry
    by_cases hk : key = name
    · simp [hk, ih]
    · have : (name == key) = false := by simpa using Ne.symm hk
      simp [hk, List.lookup_cons, this, ih]

theorem get?_insert (h : Headers) (name other : String) (value : Bytes) :
    (h.insert name value).get? other =
      if Text.lower other = Text.lower name then some value else h.get? other := by
  simp only [get?, insert, append, remove, List.lookup_append]
  split
  · rename_i same
    rw [same, lookup_filter_self]
    simp
  · rename_i differ
    rw [lookup_filter_ne differ]
    have : (Text.lower other == Text.lower name) = false := by simpa using differ
    simp [List.lookup_cons, this]

end Headers

end Countersign

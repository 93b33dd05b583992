import PromiseHttp.Text.Octets
import PromiseHttp.Text.Blank
import PromiseHttp.Text.LetterCase
import PromiseHttp.Text.Numeral

namespace PromiseHttp

/-!
# Header fields

The fields of a message in the order in which they were added.  A name may occur any number of
times, and names are compared without regard to the case of ASCII letters.  The view of the type
is the list of its fields: every operation is described by what it does to `toList`.
-/

/-- A field: its name and its value. -/
abbrev Field := String × String

/-- The fields of a message, in order. -/
structure Headers where
  ofList ::
  toList : List Field
  deriving DecidableEq, Repr

namespace Headers

/-- Whether the field bears the name. -/
def named (name : String) (field : Field) : Bool :=
  Text.sameLetters field.1 name

/-- No fields. -/
def empty : Headers := ⟨[]⟩

instance : Inhabited Headers := ⟨empty⟩

/-- Appends a field and keeps those of the same name. -/
def insert (headers : Headers) (name value : String) : Headers :=
  ⟨headers.toList ++ [(name, value)]⟩

/-- Drops every field of the name. -/
def remove (headers : Headers) (name : String) : Headers :=
  ⟨headers.toList.filter fun field => !named name field⟩

/-- Replaces every field of the name by one field at the end. -/
def set (headers : Headers) (name value : String) : Headers :=
  (headers.remove name).insert name value

/-- The fields of one collection after those of another. -/
def append (headers added : Headers) : Headers :=
  ⟨headers.toList ++ added.toList⟩

/-- The value of the first field of the name. -/
def get? (headers : Headers) (name : String) : Option String :=
  (headers.toList.find? (named name)).map Prod.snd

/-- The values of all fields of the name, in order. -/
def getAll (headers : Headers) (name : String) : List String :=
  (headers.toList.filter (named name)).map Prod.snd

/-- Whether some field bears the name. -/
def contains (headers : Headers) (name : String) : Bool :=
  headers.toList.any (named name)

/-- The number of fields, repeated names counted each time. -/
def size (headers : Headers) : Nat :=
  headers.toList.length

/-- The length that the first `Content-Length` announces, if it is readable. -/
def contentLength? (headers : Headers) : Option Nat :=
  match headers.get? "content-length" with
  | some value => Text.readNumeral Text.countBound (Text.trim value)
  | none => none

/-- One line per field, as on the wire. -/
def lines (headers : Headers) : String :=
  String.join (headers.toList.map fun field => field.1 ++ ": " ++ field.2 ++ "\r\n")

/-- Keeps the fields whose octets are text.  Field names are ASCII, so only a value can fail. -/
def ofOctets (raw : List (Octets × Octets)) : Headers :=
  ⟨raw.filterMap fun field =>
    match Octets.decode? field.1, Octets.decode? field.2 with
    | some name, some value => some (name, value)
    | _, _ => none⟩

/-! ## What the operations do to the list -/

@[simp]
theorem toList_insert (headers : Headers) (name value : String) :
    (headers.insert name value).toList = headers.toList ++ [(name, value)] := rfl

@[simp]
theorem toList_remove (headers : Headers) (name : String) :
    (headers.remove name).toList = headers.toList.filter fun field => !named name field := rfl

@[simp]
theorem toList_set (headers : Headers) (name value : String) :
    (headers.set name value).toList =
      (headers.toList.filter fun field => !named name field) ++ [(name, value)] := rfl

@[simp]
theorem toList_append (headers added : Headers) :
    (headers.append added).toList = headers.toList ++ added.toList := rfl

theorem contains_iff {headers : Headers} {name : String} :
    headers.contains name = true ↔ ∃ field ∈ headers.toList, named name field = true := by
  simp [contains]

/-- After a removal the name is gone. -/
theorem not_contains_remove (headers : Headers) (name : String) :
    (headers.remove name).contains name = false := by
  simp [contains, named]

/-- After a replacement the new value is the only one. -/
theorem getAll_set (headers : Headers) (name value : String) :
    (headers.set name value).getAll name = [value] := by
  simp [getAll, named, List.filter_append, List.filter_filter]

end Headers

end PromiseHttp

import GridFilter.Json.Scan

/-!
# Reading records

How the types of the library are read from a scanned document.  A record is an object, whose
unknown members are skipped and whose known members appear at most once, or an array of its fields
in order.  Fields are read in the order of the text into a draft, a record all of whose fields may
still be missing; a `Shape` says which fields there are and when a draft is complete.
-/

namespace GridFilter

open Json (Source)

/-- Why a document cannot be read as a type. -/
inductive Fault where
  /-- The text is no JSON, or holds a value of another form. -/
  | malformed
  /-- A code in range that names no operator. -/
  | unknownOperator (code : Nat)
  /-- A code in range that names no combinator. -/
  | unknownCombinator (code : Nat)
  deriving DecidableEq, Repr

/-- The text of a fault that has one of its own. -/
def Fault.message? : Fault → Option String
  | malformed => none
  | unknownOperator code => some ("unknown condition operator code " ++ Text.natText code)
  | unknownCombinator code => some ("unknown filter operator code " ++ Text.natText code)

/-- Reads a value from a scanned document. -/
abbrev Decoder (α : Type) := Source → Except Fault α

namespace Decoder

/-! ## Plain values -/

/-- A string. -/
def text : Decoder String
  | .string value => .ok value
  | _ => .error .malformed

/-- A truth value. -/
def bool : Decoder Bool
  | .bool value => .ok value
  | _ => .error .malformed

/-- An integer between two ends, both included. -/
def integer (lower upper : Int) : Decoder Int
  | .integer value => if lower ≤ value ∧ value ≤ upper then .ok value else .error .malformed
  | _ => .error .malformed

/-- An integer of thirty-two signed bits. -/
def int32 : Decoder Int :=
  integer (-2147483648) 2147483647

/-- A natural number of sixty-four bits. -/
def uint64 : Decoder Nat :=
  fun source => (integer 0 18446744073709551615 source).map Int.toNat

/-- A number; an integer counts as the number nearest to it. -/
def number : Decoder Number
  | .integer value => .ok (Number.ofInt value)
  | .real value => .ok value
  | _ => .error .malformed

/-- Any value. -/
def value : Decoder Json := fun source =>
  match source.value? with
  | some value => .ok value
  | none => .error .malformed

/-- A value or null. -/
def optional {α : Type} (decode : Decoder α) : Decoder (Option α)
  | .null => .ok none
  | source => (decode source).map some

/-- The items of a list, read in order. -/
def items {α : Type} (decode : Decoder α) : List Source → Except Fault (List α)
  | [] => .ok []
  | item :: rest => do
    let value ← decode item
    let values ← items decode rest
    pure (value :: values)

/-- An array of values. -/
def list {α : Type} (decode : Decoder α) : Decoder (List α)
  | .array found => items decode found
  | _ => .error .malformed

/-- An array of exactly two values. -/
def pair {α : Type} (decode : Decoder α) : Decoder (α × α)
  | .array (first :: second :: rest) => do
    let first ← decode first
    let second ← decode second
    if rest.isEmpty then pure (first, second) else throw .malformed
  | _ => .error .malformed

/-- One of a set of names: a string, or an object of that one name with null. -/
def named {α : Type} (ofName? : String → Option α) (source : Source) : Except Fault α :=
  let name? := match source with
    | .string name => some name
    | .object [(some name, .null)] => some name
    | _ => none
  match name?.bind ofName? with
  | some value => .ok value
  | none => .error .malformed

end Decoder

/-! ## Records -/

/-- One field of a record: its name, and how it is put into a draft. -/
structure Field (δ : Type) where
  name : String
  read : Source → δ → Except Fault δ

/-- A field that a draft holds at most once. -/
def Field.once {δ α : Type} (name : String) (held : δ → Option α) (put : α → δ → δ)
    (decode : Decoder α) : Field δ :=
  ⟨name, fun source draft =>
    if (held draft).isSome then .error .malformed
    else (decode source).map fun value => put value draft⟩

/-- Whether a record is written as an object or as an array of its fields. -/
inductive Layout where
  | named
  | positional
  deriving DecidableEq, Repr

/-- How a record is read: the draft without any field, the fields in order, and the record a draft
makes once the text is read. -/
structure Shape (δ α : Type) where
  empty : δ
  fields : List (Field δ)
  finish : Layout → δ → Except Fault α

namespace Shape

/-- Puts the members of an object into a draft, skipping those that name no field. -/
def readMembers {δ : Type} (fields : List (Field δ)) (draft : δ) :
    List (Option String × Source) → Except Fault δ
  | [] => .ok draft
  | (none, _) :: _ => .error .malformed
  | (some name, source) :: rest =>
    match fields.find? fun field => field.name == name with
    | some field => do readMembers fields (← field.read source draft) rest
    | none => readMembers fields draft rest

/-- Puts the items of an array into a draft, one for each field in order. -/
def readItems {δ : Type} : List (Field δ) → δ → List Source → Except Fault δ
  | _, draft, [] => .ok draft
  | [], _, _ :: _ => .error .malformed
  | field :: fields, draft, source :: rest => do
    readItems fields (← field.read source draft) rest

/-- Reads the members of an object as a record. -/
def decodeMembers {δ α : Type} (shape : Shape δ α) (members : List (Option String × Source)) :
    Except Fault α := do
  shape.finish .named (← readMembers shape.fields shape.empty members)

/-- Reads a record. -/
def decode {δ α : Type} (shape : Shape δ α) : Decoder α
  | .object members => shape.decodeMembers members
  | .array found => do shape.finish .positional (← readItems shape.fields shape.empty found)
  | _ => .error .malformed

end Shape

/-- The value of a field that has to be there. -/
def required {α : Type} : Option α → Except Fault α
  | some value => .ok value
  | none => .error .malformed

/-- The value of a field that may be left out of an object and not out of an array. -/
def unlessNamed {α : Type} (default : α) (layout : Layout) : Option α → Except Fault α
  | some value => .ok value
  | none => if layout = .named then .ok default else .error .malformed

/-! ## Documents -/

/-- Reads a whole text.  A fault of the value comes before one of the text behind it. -/
def readDocument {α : Type} (decode : Decoder α) (text : String) : Except Fault α := do
  let document := Json.Document.scan text
  let value ← decode document.source
  if document.sound then pure value else throw .malformed

end GridFilter

import CustomFields.Decimal.Notation
import CustomFields.Json.Reader
import CustomFields.Text.Quoted

/-!
# Decoding documents

A decoder takes the tree of a JSON text to a value of a type, or says why it does not fit. The
first fault wins, in the order of the text: a record meets its members one by one and skips those
it does not know; only then it looks for what is missing, in the order of its declaration. A
record may also be written as a row of its fields.
-/

namespace CustomFields.Json

/-! ## Faults -/

/-- What stands where something else is expected. -/
inductive Found where
  | null
  | bool (value : Bool)
  | integer (value : Int)
  | float (value : Binary64)
  | string (value : String)
  | sequence
  | map
deriving DecidableEq, Repr

/-- A number with at least one digit behind the point, never with an exponent. -/
private def pointedText (x : Binary64) : String :=
  let s := Decimal.plain x
  if s.contains '.' then s else s ++ ".0"

/-- What has been found, in a message. -/
def Found.text : Found → String
  | .null => "null"
  | .bool b => "boolean \x60" ++ (if b then "true" else "false") ++ "\x60"
  | .integer n => "integer \x60" ++ toString n ++ "\x60"
  | .float x => "floating point \x60" ++ pointedText x ++ "\x60"
  | .string s => "string " ++ Text.quote s
  | .sequence => "sequence"
  | .map => "map"

/-- Why a document does not have the form that is expected. -/
inductive DecodeError where
  | wrongType (found : Found) (expected : String)
  | wrongValue (found : Found) (expected : String)
  /-- Neither a name nor an object where one of several names is expected. -/
  | notAVariant (found : Found)
  | unknownVariant (name : String) (variants : List String)
  | notSingleKey
  | noMatch (type : String)
  | missingField (name : String)
  | duplicateField (name : String)
  /-- A row that ends before a field at a place. -/
  | tooShort (place : Nat) (type : String) (fields : Nat)
  | tooLong (length : Nat)
  /-- A text that is not of the given form. -/
  | illFormed (form : String)
  /-- The text is no JSON from here on. -/
  | broken
deriving DecidableEq, Repr

namespace DecodeError

/-- A name in a message. -/
private def ticked (s : String) : String := "\x60" ++ s ++ "\x60"

/-- The names that were possible: one, two, or a list. -/
private def variantsText : List String → String
  | [] => "there are no variants"
  | [a] => "expected " ++ ticked a
  | [a, b] => "expected " ++ ticked a ++ " or " ++ ticked b
  | names => "expected one of " ++ ", ".intercalate (names.map ticked)

/-- What is said of a document that does not have the form that is expected. -/
def message : DecodeError → String
  | .wrongType found expected => "invalid type: " ++ found.text ++ ", expected " ++ expected
  | .wrongValue found expected => "invalid value: " ++ found.text ++ ", expected " ++ expected
  | .notAVariant found => "invalid type: " ++ found.text ++ ", expected string or map"
  | .unknownVariant name variants =>
    "unknown variant " ++ ticked name ++ ", " ++ variantsText variants
  | .notSingleKey => "invalid value: map, expected map with a single key"
  | .noMatch type => "data did not match any variant of untagged enum " ++ type
  | .missingField name => "missing field " ++ ticked name
  | .duplicateField name => "duplicate field " ++ ticked name
  | .tooShort place type fields =>
    "invalid length " ++ toString place ++ ", expected struct " ++ type ++ " with " ++
      toString fields ++ (if fields = 1 then " element" else " elements")
  | .tooLong length => "invalid length " ++ toString length ++ ", expected fewer elements in array"
  | .illFormed form => "invalid " ++ form
  | .broken => "invalid JSON"

/-- Whether a reader of text already stumbles over the form, before any meaning. -/
def isSyntactic : DecodeError → Bool
  | .notAVariant _ | .notSingleKey | .tooLong _ | .broken => true
  | _ => false

end DecodeError

/-! ## Decoders of single values -/

/-- Makes a value of some type from what has been read of a document. -/
abbrev Decoder (α : Type) := Tree → Except DecodeError α

/-- What a tree is, if it can be read. -/
def Tree.found : Tree → Except DecodeError Found
  | .null => return .null
  | .bool b => return .bool b
  | .number (.integer n) => return .integer n
  | .number (.float x) => return .float x
  | .string s => return .string s
  | .array _ _ => return .sequence
  | .object _ _ => return .map
  | .unreadable | .broken => throw .broken

/-- The fault of a tree that is not of an expected kind. -/
def Tree.mismatch {α : Type} (t : Tree) (expected : String) : Except DecodeError α := do
  throw (.wrongType (← t.found) expected)

namespace Decoder

/-- A text. -/
def string : Decoder String
  | .string s => return s
  | t => t.mismatch "a string"

/-- A truth value. -/
def bool : Decoder Bool
  | .bool b => return b
  | t => t.mismatch "a boolean"

/-- A natural number below a limit; the name says how wide it is. -/
def natBelow (limit : Nat) (name : String) : Decoder Nat
  | .number (.integer n) =>
    if 0 ≤ n ∧ n < limit then return n.toNat else throw (.wrongValue (.integer n) name)
  | t => t.mismatch name

/-- A count. -/
def size : Decoder Nat := natBelow UInt64.size "usize"

/-- A value of free form. -/
def value : Decoder Value := fun t =>
  match t.toValue? with
  | some v => return v
  | none => throw .broken

/-- A value that may be null. -/
def nullable {α : Type} (d : Decoder α) : Decoder (Option α)
  | .null => return none
  | t => do return some (← d t)

/-- An array of values. -/
def list {α : Type} (d : Decoder α) : Decoder (List α)
  | .array items complete => do
    let xs ← items.mapM d
    if complete then return xs else throw .broken
  | t => t.mismatch "a sequence"

/-- The entries of an object with free keys, keys in order. The last one of a key wins. -/
def entries {α : Type} (d : Decoder α) : Decoder (List (String × α))
  | .object members complete => do
    let bindings ← members.mapM fun (key?, t) =>
      match key? with
      | none => throw .broken
      | some key => do return (key, ← d t)
    if complete then return Entries.ofBindings bindings else throw .broken
  | t => t.mismatch "a map"

/-- An object of free form. -/
def object : Decoder Object := entries value

/-- One of several names, or an object with such a name as its only key and a content that says
nothing. -/
def oneOfWith {α : Type} (saysNothing : Tree → Bool) (variants : List (String × α)) :
    Decoder α := fun t =>
  let select (name : String) : Except DecodeError α :=
    match Entries.get? name variants with
    | some a => return a
    | none => throw (.unknownVariant name (variants.map Prod.fst))
  match t with
  | .string s => select s
  | .object [(some key, content)] complete => do
    let a ← select key
    if saysNothing content then
      if complete then return a else throw .broken
    else content.mismatch "unit"
  | .object _ _ => throw .notSingleKey
  | t => do throw (.notAVariant (← t.found))

/-- One of several names, or an object with such a name as its only key and null as its
content. -/
def oneOf {α : Type} (variants : List (String × α)) : Decoder α :=
  oneOfWith (fun | .null => true | _ => false) variants

/-- A text that a reader takes. -/
def ofText {α : Type} (form : String) (read? : String → Option α) : Decoder α := fun t => do
  match read? (← string t) with
  | some a => return a
  | none => throw (.illFormed form)

end Decoder

/-! ## Records -/

/-- A field of a record: how it is read, and its value where an object leaves it out or a row
ends before it. -/
structure Field (α : Type) where
  name : String
  decode : Decoder α
  whenAbsent : Option α
  whenCutOff : Option α

namespace Field

/-- A member that has to be there. -/
def required {α : Type} (name : String) (d : Decoder α) : Field α :=
  ⟨name, d, none, none⟩

/-- A member that stands for a default where it is left out. -/
def withDefault {α : Type} (name : String) (d : Decoder α) (default : α) : Field α :=
  ⟨name, d, some default, some default⟩

/-- A field that may be null or left out. -/
def optional {α : Type} (name : String) (d : Decoder α) : Field (Option α) :=
  withDefault name (Decoder.nullable d) none

/-- A field that may be null or left out of an object, but not off a row. -/
def nullable {α : Type} (name : String) (d : Decoder α) : Field (Option α) :=
  ⟨name, Decoder.nullable d, some none, none⟩

end Field

/-- The fields of a record, in the order of its declaration. -/
inductive Fields : List Type → Type 1 where
  | nil : Fields []
  | cons {α : Type} {αs : List Type} (f : Field α) (fs : Fields αs) : Fields (α :: αs)

/-- One value for each type of a list. -/
abbrev Tuple : List Type → Type
  | [] => Unit
  | α :: αs => α × Tuple αs

/-- The fields of a record that have been met so far. -/
abbrev Slots : List Type → Type
  | [] => Unit
  | α :: αs => Option α × Slots αs

namespace Fields

/-- No member has been met yet. -/
def emptySlots : {αs : List Type} → Fields αs → Slots αs
  | _, .nil => ()
  | _, .cons _ fs => (none, fs.emptySlots)

/-- The number of members. -/
def length : {αs : List Type} → Fields αs → Nat
  | _, .nil => 0
  | _, .cons _ fs => fs.length + 1

/-- Meets a member of an object. -/
def visit (key : String) (t : Tree) :
    {αs : List Type} → Fields αs → Slots αs → Except DecodeError (Slots αs)
  | _, .nil, slots => if t.isWhole then return slots else throw .broken
  | _, .cons f fs, (slot, slots) =>
    if f.name = key then
      match slot with
      | some _ => throw (.duplicateField key)
      | none => do return (some (← f.decode t), slots)
    else do return (slot, ← fs.visit key t slots)

/-- The record of the fields that have been met. -/
def finish : {αs : List Type} → Fields αs → Slots αs → Except DecodeError (Tuple αs)
  | _, .nil, () => return ()
  | _, .cons f fs, (slot, slots) =>
    match slot.or f.whenAbsent with
    | some a => do return (a, ← fs.finish slots)
    | none => throw (.missingField f.name)

/-- Meets the items of a row, the first of them at a place, and returns those that are left. -/
def fromRow (type : String) (total : Nat) (complete : Bool) :
    {αs : List Type} → Fields αs → Nat → List Tree → Except DecodeError (Tuple αs × List Tree)
  | _, .nil, _, items => return ((), items)
  | _, .cons f fs, place, item :: items => do
    let a ← f.decode item
    let (rest, left) ← fs.fromRow type total complete (place + 1) items
    return ((a, rest), left)
  | _, .cons f fs, place, [] =>
    if !complete then throw .broken
    else
      match f.whenCutOff with
      | none => throw (.tooShort place type total)
      | some a => do
        let (rest, left) ← fs.fromRow type total complete (place + 1) []
        return ((a, rest), left)

end Fields

/-- Decodes a record with a name. -/
def Decoder.record (type : String) {αs : List Type} (fields : Fields αs) : Decoder (Tuple αs)
  | .object members complete => do
    let slots ← members.foldlM (fun slots (key?, t) =>
      match key? with
      | none => throw .broken
      | some key => fields.visit key t slots) fields.emptySlots
    if complete then fields.finish slots else throw .broken
  | .array items complete => do
    let (record, left) ← fields.fromRow type fields.length complete 0 items
    if !left.isEmpty then throw (.tooLong items.length)
    if complete then return record else throw .broken
  | t => t.mismatch ("struct " ++ type)

end CustomFields.Json

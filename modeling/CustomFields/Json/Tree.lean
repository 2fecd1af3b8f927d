import CustomFields.Json.Value

/-!
# Trees of JSON texts

What could be read of a text, in the order of the text, with repeated keys kept. Nothing is an
error yet: a container that breaks off is marked as not complete, and a part that is well formed
but has no value, such as a number out of range, is kept as unreadable. A decoder that visits the
tree in order therefore meets its own errors and those of the text in the order in which they
stand, and a part that it skips may be unreadable.
-/

namespace CustomFields.Json

/-- What has been read of a text, as far as it could be read. -/
inductive Tree where
  | null
  | bool (value : Bool)
  | number (value : Number)
  | string (value : String)
  | array (items : List Tree) (complete : Bool)
  /-- An unreadable key is none. -/
  | object (members : List (Option String × Tree)) (complete : Bool)
  /-- The text is well formed here and has no value. -/
  | unreadable
  /-- The text is not a value here. -/
  | broken

instance : Inhabited Tree := ⟨.broken⟩

namespace Tree

/-- How many levels of containers a text may nest. -/
def maxNesting : Nat := 127

/-- Whether a tree has no break, readable or not. -/
def isWhole : Tree → Bool
  | .array items complete => complete && go items
  | .object members complete => complete && goMembers members
  | .broken => false
  | _ => true
where
  go : List Tree → Bool
    | [] => true
    | t :: ts => t.isWhole && go ts
  goMembers : List (Option String × Tree) → Bool
    | [] => true
    | (_, t) :: ms => t.isWhole && goMembers ms

/-- Takes the value from containers that lie under more than `levels` others. -/
def cut (levels : Nat) : Tree → Tree
  | .array items complete =>
    match levels with
    | 0 => if (Tree.array items complete).isWhole then .unreadable else .broken
    | levels + 1 => .array (go levels items) complete
  | .object members complete =>
    match levels with
    | 0 => if (Tree.object members complete).isWhole then .unreadable else .broken
    | levels + 1 => .object (goMembers levels members) complete
  | t => t
where
  go (levels : Nat) : List Tree → List Tree
    | [] => []
    | t :: ts => t.cut levels :: go levels ts
  goMembers (levels : Nat) : List (Option String × Tree) → List (Option String × Tree)
    | [] => []
    | (k, t) :: ms => (k, t.cut levels) :: goMembers levels ms

/-- The value of a tree. The last member of a key wins. -/
def toValue? : Tree → Option Value
  | .null => some .null
  | .bool b => some (.bool b)
  | .number n => some (.number n)
  | .string s => some (.string s)
  | .array items complete => if complete then (go items).map .array else none
  | .object members complete => if complete then (goMembers members []).map .object else none
  | .unreadable => none
  | .broken => none
where
  go : List Tree → Option (List Value)
    | [] => some []
    | t :: ts => do
      let v ← t.toValue?
      let vs ← go ts
      return v :: vs
  goMembers : List (Option String × Tree) → Object → Option Object
    | [], entries => some entries
    | (key?, t) :: ms, entries => do
      let key ← key?
      let v ← t.toValue?
      goMembers ms (Entries.put key v entries)

/-- A value as the tree of a text for it. -/
def ofValue : Value → Tree
  | .null => .null
  | .bool b => .bool b
  | .number n => .number n
  | .string s => .string s
  | .array items => .array (go items) true
  | .object members => .object (goMembers members) true
where
  go : List Value → List Tree
    | [] => []
    | v :: vs => ofValue v :: go vs
  goMembers : List (String × Value) → List (Option String × Tree)
    | [] => []
    | (k, v) :: ms => (some k, ofValue v) :: goMembers ms

end Tree

end CustomFields.Json

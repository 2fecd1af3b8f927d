import CustomFields.Data.Entries
import CustomFields.Data.Program

/-!
# Trees of byte keys

A map from rows of bytes to texts, in the order of the keys. Looking a key up, asking whether it is
there, storing a value, and storing one only where the key is free, each happen at one point in
time; a scan reads all values whose keys start in a given way.
-/

namespace CustomFields

/-- Keys are strings of bytes. -/
abbrev Bytes := List UInt8

/-- The entries of a tree, keys in order. -/
abbrev ByteTree := List (Bytes × String)

namespace ByteTree

/-- The tree with no entries. -/
def empty : ByteTree := []

/-- The tree with a value under a key. -/
def insert (t : ByteTree) (key : Bytes) (value : String) : ByteTree :=
  Entries.put key value t

/-- The values under keys that start with a row of bytes, in the order of the keys. -/
def scan (t : ByteTree) (start : Bytes) : List String :=
  (t.filter fun (key, _) => start.isPrefixOf key).map Prod.snd

end ByteTree

/-- The accesses to a tree. Each of them is atomic. -/
inductive TreeAccess where
  | get (key : Bytes)
  | contains (key : Bytes)
  | insert (key : Bytes) (value : String)
  /-- Stores a value if the key is free, and tells whether it was. -/
  | insertNew (key : Bytes) (value : String)
  | scan (start : Bytes)

/-- What an access to a tree answers. -/
def TreeAccess.Answer : TreeAccess → Type
  | .get _ => Option String
  | .contains _ => Bool
  | .insert _ _ => Unit
  | .insertNew _ _ => Bool
  | .scan _ => List String

/-- What an access answers, and the tree that it leaves. -/
def TreeAccess.serve : (x : TreeAccess) → ByteTree → x.Answer × ByteTree
  | .get key, t => (Entries.get? key t, t)
  | .contains key, t => (Entries.contains key t, t)
  | .insert key value, t => ((), t.insert key value)
  | .insertNew key value, t =>
    if Entries.contains key t then (false, t) else (true, t.insert key value)
  | .scan start, t => (t.scan start, t)

end CustomFields

import CustomFields.Store.Memory
import CustomFields.Store.Persistent
import CustomFields.Unicode.LetterCase

/-!
# The kinds of storage

A store is kept in memory or in a tree on disk; which of them is a matter of configuration.
-/

namespace CustomFields

/-- The kinds of stores that a server can be started with. -/
inductive StorageKind where
  | memory
  | tree
deriving DecidableEq, Repr

namespace StorageKind

/-- All kinds. -/
def all : List StorageKind := [.memory, .tree]

/-- The name of a kind in settings. -/
def name : StorageKind → String
  | .memory => "memory"
  | .tree => "sled"

/-- The kind that is used unless another one is named. -/
def default : StorageKind := .memory

/-- The kind with a name, in letters of either case, or a message. -/
def parse (s : String) : Except String StorageKind :=
  let lower := Unicode.lowerCaseText s
  match all.find? (·.name == lower) with
  | some k => return k
  | none => throw ("Unknown storage backend: " ++ lower)

/-- A kind, from its name. -/
def decode : Json.Decoder StorageKind :=
  Json.Decoder.oneOf (all.map fun k => (k.name, k))

end StorageKind

/-- A store of one of the two kinds. -/
inductive Storage where
  | memory (m : MemoryStore)
  | tree (s : PersistentStore)

namespace Storage

/-- An empty store. -/
def new : StorageKind → Storage
  | .memory => .memory .empty
  | .tree => .tree .empty

/-- What an access answers, and the storage that it leaves. -/
def serve : storeInterface.Server Storage
  | x, .memory m =>
    let (answer, m) := m.serve x
    (answer, .memory m)
  | x, .tree s =>
    let (answer, s) := s.serve x
    (answer, .tree s)

end Storage

end CustomFields

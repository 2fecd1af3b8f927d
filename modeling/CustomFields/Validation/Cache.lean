import CustomFields.Validation.Compiled

/-!
# The cache of compiled schemas

Compiled schemas are held by the fingerprints of their sources. Each compilation has a number of
its own, so that it can be told whether two answers are the same compilation or two of the same
schema. Where the cache is full it starts over with the schema that did not fit. Getting a schema
takes three steps, and those of several calls may mix: a lookup, a compilation, an insertion.
-/

namespace CustomFields

/-- A compiled schema and the number of its compilation. -/
structure Compilation where
  number : Nat
  schema : CompiledSchema

/-- The compiled schemas that are held, by their fingerprints. Compilations are counted, so that it
can be told whether two answers are one object. -/
structure SchemaCache where
  /-- How many schemas are held at most; never zero. -/
  capacity : Nat
  entries : List (String × Compilation)
  /-- How many compilations there have been. -/
  compiled : Nat

namespace SchemaCache

/-- How many schemas are held unless something else is said. -/
def defaultCapacity : Nat := 256

/-- An empty cache. It holds one schema even where it is asked to hold none. -/
def new (capacity : Nat) : SchemaCache :=
  ⟨max capacity 1, [], 0⟩

/-- How many schemas are held. -/
def size (c : SchemaCache) : Nat :=
  c.entries.length

/-- Whether no schema is held. -/
def isEmpty (c : SchemaCache) : Bool :=
  c.entries.isEmpty

/-- The cache without the schemas that it holds. -/
def clear (c : SchemaCache) : SchemaCache :=
  { c with entries := [] }

/-- The compilation held under a fingerprint. -/
def lookup? (c : SchemaCache) (fingerprint : String) : Option Compilation :=
  Entries.get? fingerprint c.entries

/-- Compiles a schema without holding it. -/
def compile (c : SchemaCache) (s : Schema) : Except SchemaError Compilation × SchemaCache :=
  match CompiledSchema.compile s with
  | .error e => (.error e, c)
  | .ok schema => (.ok ⟨c.compiled, schema⟩, { c with compiled := c.compiled + 1 })

/-- Holds a compilation under a fingerprint, unless one is held already, and returns the one that
is held. -/
def insert (c : SchemaCache) (fingerprint : String) (new : Compilation) :
    Compilation × SchemaCache :=
  match c.lookup? fingerprint with
  | some held => (held, c)
  | none =>
    let kept := if c.capacity ≤ c.size then [] else c.entries
    (new, { c with entries := Entries.assign fingerprint new kept })

/-- The compiled form of a schema, compiled if it is not held. -/
def getOrCompile (c : SchemaCache) (s : Schema) : Except SchemaError Compilation × SchemaCache :=
  let fingerprint := s.fingerprint
  match c.lookup? fingerprint with
  | some held => (.ok held, c)
  | none =>
    match c.compile s with
    | (.error e, c) => (.error e, c)
    | (.ok new, c) =>
      let (held, c) := c.insert fingerprint new
      (.ok held, c)

end SchemaCache

end CustomFields

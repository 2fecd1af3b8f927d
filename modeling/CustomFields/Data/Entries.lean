/-!
# Keyed entries

A finite map as a list of entries. `put` keeps the entries in the order of their keys and lets
the last write win; `get?` reads the map back. The two laws below hold for every list, ordered
or not, so a reader of a map never needs to know how it was built.
-/

namespace CustomFields.Entries

variable {κ ν : Type}

/-- The value stored under a key. -/
def get? [DecidableEq κ] (k : κ) : List (κ × ν) → Option ν
  | [] => none
  | (k', v) :: rest => if k = k' then some v else get? k rest

/-- Stores a value under a key, in key order, replacing what the key held. -/
def put [DecidableEq κ] [LT κ] [DecidableRel (α := κ) (· < ·)] (k : κ) (v : ν) :
    List (κ × ν) → List (κ × ν)
  | [] => [(k, v)]
  | (k', v') :: rest =>
    if k = k' then (k, v) :: rest
    else if k < k' then (k, v) :: (k', v') :: rest
    else (k', v') :: put k v rest

/-- Stores a value under a key: in its place when the key is known, else at the end. -/
def assign [DecidableEq κ] (k : κ) (v : ν) : List (κ × ν) → List (κ × ν)
  | [] => [(k, v)]
  | (k', v') :: rest => if k = k' then (k, v) :: rest else (k', v') :: assign k v rest

/-- The keys of the entries, in their order. -/
def keys (entries : List (κ × ν)) : List κ :=
  entries.map Prod.fst

/-- Whether a key has an entry. -/
def contains [DecidableEq κ] (k : κ) (entries : List (κ × ν)) : Bool :=
  (get? k entries).isSome

/-- The map of a list of bindings, of which the last one of a key wins. -/
def ofBindings [DecidableEq κ] [LT κ] [DecidableRel (α := κ) (· < ·)]
    (bindings : List (κ × ν)) : List (κ × ν) :=
  bindings.foldl (fun entries b => put b.1 b.2 entries) []

section Laws

variable [DecidableEq κ] [LT κ] [DecidableRel (α := κ) (· < ·)]

theorem get?_put_self (k : κ) (v : ν) (entries : List (κ × ν)) :
    get? k (put k v entries) = some v := by
  induction entries with
  | nil => simp [put, get?]
  | cons e rest ih =>
    unfold put
    split
    · simp [get?]
    · split
      · simp [get?]
      · simp [get?, *]

theorem get?_put_of_ne {k k' : κ} (h : k' ≠ k) (v : ν) (entries : List (κ × ν)) :
    get? k' (put k v entries) = get? k' entries := by
  induction entries with
  | nil => simp [put, get?, h]
  | cons e rest ih =>
    unfold put
    split
    · next heq => subst heq; simp [get?, h]
    · split
      · simp [get?, h]
      · simp [get?, ih]

end Laws

section Laws

variable [DecidableEq κ]

theorem get?_assign_self (k : κ) (v : ν) (entries : List (κ × ν)) :
    get? k (assign k v entries) = some v := by
  induction entries with
  | nil => simp [assign, get?]
  | cons e rest ih =>
    unfold assign
    split
    · simp [get?]
    · simp [get?, *]

theorem get?_assign_of_ne {k k' : κ} (h : k' ≠ k) (v : ν) (entries : List (κ × ν)) :
    get? k' (assign k v entries) = get? k' entries := by
  induction entries with
  | nil => simp [assign, get?, h]
  | cons e rest ih =>
    unfold assign
    split
    · next heq => subst heq; simp [get?, h]
    · simp [get?, ih]

end Laws

end CustomFields.Entries

import Mathlib.Data.List.Infix

/-! # A cache of queries

The answers of queries under keys that are lists, with the operations of a query client: an entry is set,
and all entries whose keys start with a prefix are marked invalid or removed.  A cache is coherent after a
change if no valid entry is left whose answer has changed.  Each operation has a rule that says what must
hold of the cache before it, so that the rules of a chain of operations say which entries it forgets. -/

namespace Effects

/-- A cached answer.  An entry that is marked invalid is fetched again before it counts. -/
structure QueryEntry (β : Type) where
  data : β
  isInvalidated : Bool

/-- The entries by their keys. -/
def QueryCache (κ β : Type) : Type := List κ → Option (QueryEntry β)

namespace QueryCache

variable {κ β K : Type}

/-! ### Coherence -/

/-- The cache without entries. -/
def empty : QueryCache κ β := fun _ => none

variable {path : K → List κ} {changed changed' : K → Prop} {holds : K → β → Prop} {c : QueryCache κ β}

variable [DecidableEq κ]

/-- `setQueryData`: the entry of a key is this one, and valid. -/
def setQueryData (c : QueryCache κ β) (key : List κ) (data : β) : QueryCache κ β := fun k =>
  if k = key then some ⟨data, false⟩ else c k

/-- `invalidateQueries`: all entries under a prefix are marked. -/
def invalidateQueries (c : QueryCache κ β) (queryKey : List κ) : QueryCache κ β := fun k =>
  if queryKey <+: k then (c k).map fun e => { e with isInvalidated := true } else c k

/-- `removeQueries`: all entries under a prefix are gone. -/
def removeQueries (c : QueryCache κ β) (queryKey : List κ) : QueryCache κ β := fun k =>
  if queryKey <+: k then none else c k

end QueryCache

end Effects

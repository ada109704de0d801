/-! # Invalidation marks

A partition counts its invalidations and remembers for every id when it was last invalidated. Only
so many ids are remembered apart: the mark of one more counts for all ids. -/

namespace QueryRewriting

/-- The number of invalidations so far, the number at the last one that concerned all ids, and the
number at the last one of each id since then. -/
structure Marks where
  clock : Nat
  all : Nat
  byId : List (String × Nat)
  deriving Repr

namespace Marks

/-- No invalidation so far. -/
def empty : Marks := { clock := 0, all := 0, byId := [] }

/-- How many ids may have marks of their own. -/
def maxTracked : Nat := 4096

/-- Whether an id has a mark of its own. -/
def tracks (marks : Marks) (id : String) : Bool := (marks.byId.lookup id).isSome

/-- Marks all ids as invalidated now. -/
def markAll (marks : Marks) : Marks :=
  { clock := marks.clock + 1, all := marks.clock + 1, byId := [] }

/-- Puts a time under an id, in place of the one there. -/
def setTime (id : String) (time : Nat) : List (String × Nat) → List (String × Nat)
  | [] => [(id, time)]
  | (key, old) :: rest =>
    if key = id then (id, time) :: rest else (key, old) :: setTime id time rest

/-- Marks an id as invalidated now. -/
def mark (marks : Marks) (id : String) : Marks :=
  if maxTracked ≤ marks.byId.length ∧ marks.tracks id = false then marks.markAll
  else { marks with
    clock := marks.clock + 1
    byId := setTime id (marks.clock + 1) marks.byId }

/-- Whether an id was invalidated after the clock stood at `stamp`. -/
def invalidatedSince (marks : Marks) (id : String) (stamp : Nat) : Bool :=
  stamp < marks.all ||
    match marks.byId.lookup id with
    | some time => stamp < time
    | none => false

end Marks

end QueryRewriting

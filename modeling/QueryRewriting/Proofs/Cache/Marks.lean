import Mathlib.Order.Nat
import QueryRewriting.Cache.Marks

/-! # What invalidation marks remember

Once an id counts as invalidated since a time, it does so for ever: marks are replaced by later
ones, and those of single ids are only forgotten where a later mark of all ids takes their place.
-/

namespace QueryRewriting

namespace Marks

variable {marks : Marks} {id other : String} {stamp time : Nat}

/-- The time of an id is the one that was set last. -/
@[simp] theorem lookup_setTime_self (id : String) (time : Nat) (times : List (String × Nat)) :
    (setTime id time times).lookup id = some time := by
  induction times with
  | nil => simp [setTime]
  | cons entry rest ih =>
      obtain ⟨key, old⟩ := entry
      by_cases same : key = id
      · simp [setTime, same]
      · have different : (id == key) = false := by simpa using Ne.symm same
        simp [setTime, same, List.lookup_cons, different, ih]

/-- Setting the time of an id leaves those of the others. -/
theorem lookup_setTime_of_ne (time : Nat) (times : List (String × Nat)) (distinct : other ≠ id) :
    (setTime id time times).lookup other = times.lookup other := by
  induction times with
  | nil =>
      have different : (other == id) = false := by simpa using distinct
      simp [setTime, List.lookup_cons, different]
  | cons entry rest ih =>
      obtain ⟨key, old⟩ := entry
      by_cases same : key = id
      · subst same
        have different : (other == key) = false := by simpa using distinct
        simp [setTime, List.lookup_cons, different]
      · simp only [setTime, same, if_false, List.lookup_cons, ih]

/-- No mark is later than the clock. -/
structure WellFormed (marks : Marks) : Prop where
  all_le : marks.all ≤ marks.clock
  time_le : ∀ id time, marks.byId.lookup id = some time → time ≤ marks.clock

/-- An id was invalidated since a time exactly if all ids were, or it was by itself. -/
theorem invalidatedSince_iff :
    marks.invalidatedSince id stamp = true ↔
      stamp < marks.all ∨ ∃ time, marks.byId.lookup id = some time ∧ stamp < time := by
  unfold invalidatedSince
  cases marks.byId.lookup id with
  | none => simp
  | some time => simp

/-- What was invalidated since a time was invalidated since every earlier one. -/
theorem invalidatedSince_of_le (earlier : time ≤ stamp)
    (invalidated : marks.invalidatedSince id stamp = true) :
    marks.invalidatedSince id time = true := by
  rw [invalidatedSince_iff] at invalidated ⊢
  rcases invalidated with wide | ⟨mark, found, later⟩
  · exact Or.inl (by omega)
  · exact Or.inr ⟨mark, found, by omega⟩

/-- What was invalidated was read before now. -/
theorem WellFormed.lt_clock (wf : marks.WellFormed)
    (invalidated : marks.invalidatedSince id stamp = true) : stamp < marks.clock := by
  rcases invalidatedSince_iff.mp invalidated with wide | ⟨mark, found, later⟩
  · exact wide.trans_le wf.all_le
  · exact later.trans_le (wf.time_le id mark found)

/-! ## Marking all ids -/

theorem invalidatedSince_markAll (known : stamp ≤ marks.clock) :
    marks.markAll.invalidatedSince id stamp = true :=
  invalidatedSince_iff.mpr (Or.inl (Nat.lt_succ_of_le known))

/-- Where nothing is marked, no mark is later than the clock. -/
theorem wellFormed_empty : empty.WellFormed := by
  constructor
  · exact le_rfl
  · intro id time found
    simp [empty] at found

/-- A mark of all ids is not later than the clock. -/
theorem wellFormed_markAll : marks.markAll.WellFormed := by
  constructor
  · exact le_rfl
  · intro id time found
    simp [markAll] at found

/-! ## Marking one id -/

theorem clock_mark (marks : Marks) (id : String) : (marks.mark id).clock = marks.clock + 1 := by
  unfold mark
  split <;> rfl

/-- A mark invalidates what was read of its id by now. -/
theorem invalidatedSince_mark_self (known : stamp ≤ marks.clock) :
    (marks.mark id).invalidatedSince id stamp = true := by
  unfold mark
  split
  · exact invalidatedSince_markAll known
  · rw [invalidatedSince_iff]
    exact Or.inr ⟨marks.clock + 1, lookup_setTime_self .., Nat.lt_succ_of_le known⟩

/-- A mark is not later than the clock that it moves on. -/
theorem WellFormed.mark (wf : marks.WellFormed) (id : String) : (marks.mark id).WellFormed := by
  unfold Marks.mark
  split
  · exact wellFormed_markAll
  · constructor
    · exact Nat.le_succ_of_le wf.all_le
    · intro other time found
      by_cases same : other = id
      · subst same
        rw [lookup_setTime_self] at found
        exact (Option.some.inj found).ge
      · rw [lookup_setTime_of_ne _ _ same] at found
        exact Nat.le_succ_of_le (wf.time_le other time found)

/-- The mark of one id says nothing about another, as long as it does not count for all. -/
theorem WellFormed.invalidatedSince_mark_of_ne (wf : marks.WellFormed) (distinct : other ≠ id)
    (apart : (marks.mark id).all = marks.all) :
    (marks.mark id).invalidatedSince other stamp = marks.invalidatedSince other stamp := by
  unfold Marks.mark at apart ⊢
  split
  · rename_i full
    rw [if_pos full] at apart
    have later : marks.clock + 1 = marks.all := apart
    have known := wf.all_le
    omega
  · simp only [invalidatedSince, lookup_setTime_of_ne _ _ distinct]

/-! ## Marks over time -/

/-- These marks came before those: the clock has gone on, and nothing is forgotten. -/
structure Precedes (earlier later : Marks) : Prop where
  clock_le : earlier.clock ≤ later.clock
  keeps : ∀ id stamp, earlier.invalidatedSince id stamp = true →
    later.invalidatedSince id stamp = true

theorem Precedes.refl (marks : Marks) : marks.Precedes marks :=
  ⟨le_rfl, fun _ _ invalidated => invalidated⟩

theorem Precedes.trans {first second third : Marks} (before : first.Precedes second)
    (after : second.Precedes third) : first.Precedes third :=
  ⟨before.clock_le.trans after.clock_le,
    fun id stamp invalidated => after.keeps id stamp (before.keeps id stamp invalidated)⟩

theorem WellFormed.precedes_markAll (wf : marks.WellFormed) : marks.Precedes marks.markAll :=
  ⟨Nat.le_succ _, fun _ _ invalidated => invalidatedSince_markAll (wf.lt_clock invalidated).le⟩

/-- The mark of one id forgets nothing, not even when it stands in for those of all ids. -/
theorem WellFormed.precedes_mark (wf : marks.WellFormed) (id : String) :
    marks.Precedes (marks.mark id) := by
  constructor
  · rw [clock_mark]
    exact Nat.le_succ _
  · intro other stamp invalidated
    have before := wf.lt_clock invalidated
    by_cases same : other = id
    · subst same
      exact invalidatedSince_mark_self before.le
    · unfold Marks.mark
      split
      · exact invalidatedSince_markAll before.le
      · rw [invalidatedSince_iff] at invalidated ⊢
        rwa [lookup_setTime_of_ne _ _ same]

end Marks

end QueryRewriting

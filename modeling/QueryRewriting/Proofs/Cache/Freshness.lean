import Mathlib.Tactic.IntervalCases
import QueryRewriting.Kind.Noop
import QueryRewriting.Proofs.Cache.Provenance

/-! # Fresh instances

A lookup hands an instance out only if its stamp is not older than the last mark of its id. Since
the clock is noted before the store is read, the definition was then read after every mark that came
before the check.
-/

namespace QueryRewriting

namespace History

variable {history : History} {time n : Nat} {id : String} {made : Instance}

/-- An instance that is not stale was read after every mark of its id. -/
theorem Sourced.read_after_mark (sourced : history.Sourced time made)
    (fresh : (history.state time).cache.isStale made = false) {mark : Nat}
    (marks : history.Marks mark made.id) (before : mark < time) :
    ∃ read, mark < read ∧ read < time ∧ history.ReadFor read made := by
  obtain ⟨read, earlier, reads, stamped⟩ := sourced
  refine ⟨read, ?_, earlier, reads⟩
  by_contra late
  have known : made.stamp ≤ (history.state mark).cache.marks.clock :=
    stamped.trans (history.marks_precedes (Nat.le_of_not_lt late)).clock_le
  have stale := marks.invalidatedSince known before
  exact Bool.false_ne_true (fresh.symm.trans stale)

/-- What a lookup hands out is not stale at that time. -/
theorem HandsOut.fresh (handsOut : history.HandsOut time n id made) :
    (history.state time).cache.isStale made = false := by
  obtain ⟨⟨tries, steps⟩, answered⟩ := handsOut
  have answers := Option.some.inj (steps.call_succ.symm.trans answered)
  rcases Call.answered_of_step answers with answeredBefore | ⟨_, fresh⟩
  · cases answeredBefore
  · exact fresh

/-- Every instance that a lookup answers with has passed the check of that lookup. -/
theorem exists_handsOut
    (answered : (history.state time).calls[n]? = some (.lookup id (.answered (.ok made)))) :
    ∃ check < time, history.HandsOut check n id made := by
  induction time with
  | zero => cases answered
  | succ time ih =>
      have past (was : (history.state time).calls[n]? =
          some (.lookup id (.answered (.ok made)))) :
          ∃ check < time + 1, history.HandsOut check n id made := by
        obtain ⟨check, before, handsOut⟩ := ih was
        exact ⟨check, before.trans (Nat.lt_succ_self time), handsOut⟩
      have move := callMove_succ answered
      generalize after_eq : Call.lookup id (.answered (.ok made)) = after at move
      cases move with
      | kept was =>
          subst after_eq
          exact past was
      | @begun request => cases request <;> cases after_eq
      | stepped steps =>
          rcases Call.answered_of_step after_eq.symm with rfl | ⟨⟨tries, rfl⟩, fresh⟩
          · exact past steps.2
          · exact ⟨time, Nat.lt_succ_self time, ⟨tries, steps⟩, answered⟩
      | @received _ _ _ outcome => cases outcome <;> cases after_eq
      | dropped => cases after_eq
      | released => cases after_eq

/-- **Lookups are fresh.** If a lookup answers with an instance, then for every mark of its id that
came before the lookup's last check, the instance's definition was read from the store after that
mark. Calls may interleave, fail, and be dropped anywhere, and any number of ids may be marked. -/
theorem answered_read_after_marks
    (answered : (history.state time).calls[n]? = some (.lookup id (.answered (.ok made)))) :
    made.id = id ∧ ∃ check < time, history.HandsOut check n id made ∧
      ∀ mark < check, history.Marks mark id →
        ∃ read, mark < read ∧ read < check ∧ history.ReadFor read made := by
  obtain ⟨check, before, handsOut⟩ := exists_handsOut answered
  obtain ⟨tries, steps⟩ := handsOut.1
  obtain ⟨subject, sourced⟩ :=
    (history.traced check).inHand steps.2 (show Call.instance? _ = some made from rfl)
  cases subject
  refine ⟨rfl, check, before, handsOut, ?_⟩
  intro mark earlier marks
  exact sourced.read_after_mark handsOut.fresh marks earlier

/-! ### A lookup that is overtaken by an invalidation -/

/-- A definition of the rewriter that does nothing. -/
def quietDefinition : Definition :=
  { id := "r", kind := "noop", config := [], logging := none, schemaVersion := 3 }

/-- The same rewriter once its applications are logged. -/
def loggedDefinition : Definition :=
  { quietDefinition with logging := some { sinks := ["tracing"], payload := .detail } }

/-- The instance that a load makes of the logged rewriter. -/
def loggedInstance (serial stamp : Nat) : Instance where
  serial
  id := "r"
  definition := loggedDefinition
  rewriter := { id := "r", size := 65, apply := fun _ expansion => .ok (expansion, []) }
  stamp

/-- A lookup has read the store when its definition is replaced and the id invalidated. It loads
once more. -/
def racedLookup : History where
  kinds := ⟨[Kind.noop]⟩
  partition := ⟨"products", 0⟩
  maxBytes := none
  store := .empty
  events := [.put quietDefinition, .begin (.lookup "r"), .step 0, .step 0, .step 0, .step 0,
    .put loggedDefinition, .begin (.invalidate "r"), .step 1, .step 1]
    ++ List.replicate 13 (.step 0)

/-- A lookup that meets a mark while it loads reads once more before it answers. -/
theorem racedLookup_read_after_mark :
    racedLookup.Marks 8 "r" ∧ ∃ read, 8 < read ∧ racedLookup.ReadFor read (loggedInstance 1 1) := by
  have answered : (racedLookup.state 23).calls[0]? =
      some (.lookup "r" (.answered (.ok (loggedInstance 1 1)))) := rfl
  have marked : racedLookup.Marks 8 "r" := ⟨1, _, ⟨rfl, rfl⟩, Or.inl rfl⟩
  obtain ⟨_, check, before, handsOut, fresh⟩ := answered_read_after_marks answered
  have last : check = 22 := by
    have passed := handsOut.2
    interval_cases check <;> first | rfl | cases passed
  subst last
  obtain ⟨read, after, _, reads⟩ := fresh 8 (by decide) marked
  exact ⟨marked, read, after, reads⟩

end History

end QueryRewriting

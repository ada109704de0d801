import QueryRewriting.Composition
import QueryRewriting.Proofs.Query.RoundTrip

/-! # The boosts of a composed query

Joining loses none of the boosts in the main query and adds, behind them, the weights of the boosts
that the rewriters left and the boosts inside what they are on and inside the filters. -/

namespace QueryRewriting

open Decimal Query

namespace Query

mutual

/-- Other values of terms leave the weights of a query. -/
theorem boosts_mapTerms (rename : String → String → String) (query : Query) :
    (query.mapTerms rename).boosts = query.boosts := by
  match query with
  | .matchAll => rfl
  | .term field value => rfl
  | .boosted inner boost => rw [mapTerms, boosts, boosts, boosts_mapTerms rename inner]
  | .boolean clauses minimum =>
      rw [mapTerms, boosts, boosts, clauseBoosts_mapClauseTerms rename clauses]

/-- Other values of terms leave the weights of clauses. -/
theorem clauseBoosts_mapClauseTerms (rename : String → String → String) (clauses : List Clause) :
    clauseBoosts (mapClauseTerms rename clauses) = clauseBoosts clauses := by
  match clauses with
  | [] => rfl
  | (occur, query) :: rest =>
      rw [mapClauseTerms, clauseBoosts, clauseBoosts, boosts_mapTerms rename query,
        clauseBoosts_mapClauseTerms rename rest]

end

/-- The weights of clauses are those of their queries. -/
theorem clauseBoosts_eq_flatMap (clauses : List Clause) :
    clauseBoosts clauses = clauses.flatMap (·.2.boosts) := by
  induction clauses with
  | nil => rfl
  | cons clause rest ih => rw [clauseBoosts, ih, List.flatMap_cons]

/-- A threshold leaves the weights of a query. -/
theorem boosts_withThreshold (threshold : Option Threshold) (query : Query) :
    (withThreshold threshold query).boosts = query.boosts := by
  unfold withThreshold
  split <;> rfl

/-- Collapsing a query leaves its weights. -/
theorem boosts_collapse (query : Query) : (collapse query).boosts = query.boosts := by
  unfold collapse
  split
  · split
    · rw [boosts, clauseBoosts_eq_flatMap, List.flatMap_singleton]
    · rfl
  · rfl

end Query

/-- The boosts that are written for a boost: its weight, unless that is one, and those in its query.
-/
def Boost.written (boost : Boost) : List Single :=
  if boost.weight = unitWeight then boost.query.boosts else boost.weight :: boost.query.boosts

/-- The weights in the clause of a boost. -/
theorem Boost.boosts_clause (boost : Boost) : boost.clause.2.boosts = boost.written := by
  unfold clause written
  split <;> rfl

/-- The weights in the clauses of a filter are those of its query. -/
theorem Filter.boosts_clauses (filter : Filter) :
    filter.clauses.flatMap (·.2.boosts) = filter.query.boosts := by
  obtain ⟨query, polarity⟩ := filter
  cases polarity with
  | exclude => exact List.flatMap_singleton _ _
  | «include» =>
      cases query with
      | boolean inner minimum =>
          rw [boosts, clauseBoosts_eq_flatMap]
          by_cases liftable : isLiftable inner minimum = true
          · simp only [clauses, liftable, if_true, List.flatMap_map]
            rfl
          · simp [clauses, liftable, boosts, clauseBoosts_eq_flatMap]
      | _ => exact List.flatMap_singleton _ _

/-- Joining keeps the boosts of the main query and adds those of boosts and filters behind them. -/
theorem Expansion.boosts_compose {expansion : Expansion} {threshold : Option Threshold}
    {composed : Query} (success : expansion.compose threshold = .ok composed) :
    composed.boosts = expansion.main.boosts ++ expansion.boosts.flatMap Boost.written
      ++ expansion.filters.flatMap (·.query.boosts) := by
  unfold compose at success
  split at success
  · cases success
  · simp only at success
    split at success
    · rename_i untouched
      simp only [Bool.and_eq_true, List.isEmpty_iff] at untouched
      cases success
      rw [untouched.1, untouched.2, boosts_collapse, boosts_withThreshold]
      simp
    · cases success
      rw [Query.boosts, clauseBoosts_eq_flatMap, List.cons_append, List.flatMap_cons,
        boosts_withThreshold, List.flatMap_append, List.flatMap_map, List.flatMap_assoc]
      simp only [Boost.boosts_clause, Filter.boosts_clauses, List.append_assoc]

end QueryRewriting

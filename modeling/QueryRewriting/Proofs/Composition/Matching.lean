import QueryRewriting.Composition
import QueryRewriting.Proofs.Query.Matching

/-! # Composition preserves matching

The composed query matches what the main query matches, as far as the filters keep it. Boosts are
optional clauses beside a required one, so they demand nothing; and the clauses of a filter are only
lifted where the filter needs every one of its optional clauses.
-/

namespace QueryRewriting

open Query

variable {document : Document} {clauses : List Clause} {minimum : UInt32}

/-! ## Filters that need all of their optional clauses -/

/-- Without optional clauses as many of them are needed as there are. -/
theorem needed_of_none_optional (none : countClauses .should clauses = 0) (minimum : UInt32) :
    needed clauses minimum = countClauses .should clauses := by
  simp [needed, none]

/-- If the minimum is at least the number of clauses, all optional ones are needed. -/
theorem needed_of_length_le (enough : clauses.length ≤ minimum.toNat) :
    needed clauses minimum = countClauses .should clauses := by
  have atMost : countClauses .should clauses ≤ clauses.length := List.countP_le_length
  by_cases positive : 0 < minimum.toNat
  · rw [needed, if_pos positive]
    omega
  · exact needed_of_none_optional (by omega) minimum

/-- A single clause is needed if it is optional. -/
theorem needed_singleton (clause : Clause) (minimum : UInt32) :
    needed [clause] minimum = countClauses .should [clause] := by
  obtain ⟨occur, query⟩ := clause
  cases occur with
  | should =>
      have count : countClauses .should [(.should, query)] = 1 := rfl
      by_cases positive : 0 < minimum.toNat
      · rw [needed, if_pos positive, count]
        omega
      · rw [needed, if_neg positive]
        rfl
  | _ => exact needed_of_none_optional rfl minimum

/-- Where clauses only exclude, all optional ones are needed: there are none. -/
theorem needed_of_isExclusionOnly (exclusive : isExclusionOnly clauses = true) (minimum : UInt32) :
    needed clauses minimum = countClauses .should clauses := by
  refine needed_of_none_optional ?_ minimum
  simp only [isExclusionOnly, Bool.and_eq_true, List.all_eq_true, beq_iff_eq] at exclusive
  refine List.countP_eq_zero.mpr ?_
  intro clause member
  rw [exclusive.2 clause member]
  decide

/-- In a query that is lifted all optional clauses are needed. -/
theorem needed_of_isLiftable (liftable : isLiftable clauses minimum = true) :
    needed clauses minimum = countClauses .should clauses := by
  simp only [isLiftable, Bool.or_eq_true, decide_eq_true_eq] at liftable
  rcases liftable with (exclusive | short) | enough
  · exact needed_of_isExclusionOnly exclusive minimum
  · match clauses, short with
    | [], _ => exact needed_of_none_optional rfl minimum
    | [clause], _ => exact needed_singleton clause minimum
  · exact needed_of_length_le enough

/-! ## Collapsing -/

/-- Collapsing a query changes nothing about what it matches. -/
theorem selects_collapse (document : Document) (query : Query) :
    selects document (collapse query) = selects document query := by
  unfold collapse
  split
  · rename_i occur inner minimum
    have needs := needed_singleton (occur, inner) minimum
    cases occur with
    | must => simp [Occur.isScoring, selects, permits, hits, needs, countClauses]
    | should =>
        cases found : selects document inner <;>
          simp [Occur.isScoring, selects, permits, hits, needs, countClauses, found]
    | _ => rfl
  · rfl

/-! ## Lifting -/

/-- Whether a filter keeps a document. -/
def Filter.keeps (document : Document) (filter : Filter) : Bool :=
  match filter.polarity with
  | .include => selects document filter.query
  | .exclude => !selects document filter.query

/-- A lifted clause demands what the clause does, and what it wished for. -/
theorem demands_liftClause (document : Document) (clause : Clause) :
    demands document (liftClause clause) = true ↔
      demands document clause = true ∧
        (clause.1 = .should → selects document clause.2 = true) := by
  obtain ⟨occur, query⟩ := clause
  cases occur <;> simp [liftClause, demands]

/-- The lifted clauses demand together what the filter does. -/
theorem demands_lifted_iff (liftable : isLiftable clauses minimum = true) :
    (∀ clause ∈ clauses.map liftClause, demands document clause = true) ↔
      selects document (.boolean clauses minimum) = true := by
  rw [selects_boolean_iff, needed_of_isLiftable liftable, countClauses_le_hits_iff]
  simp only [List.forall_mem_map, demands_liftClause]
  constructor
  · intro both
    exact ⟨fun clause member => (both clause member).1, fun clause member => (both clause member).2⟩
  · rintro ⟨fits, full⟩ clause member
    exact ⟨fits clause member, full clause member⟩

/-- The clauses of a filter demand what the filter keeps. -/
theorem Filter.demands_clauses_iff (document : Document) (filter : Filter) :
    (∀ clause ∈ filter.clauses, demands document clause = true) ↔
      filter.keeps document = true := by
  obtain ⟨query, polarity⟩ := filter
  cases polarity with
  | exclude => simp [clauses, keeps, demands]
  | «include» =>
      cases query with
      | boolean inner minimum =>
          by_cases liftable : isLiftable inner minimum = true
          · simp only [clauses, keeps, liftable, if_true]
            exact demands_lifted_iff liftable
          · simp [clauses, keeps, demands, liftable]
      | _ => simp [clauses, keeps, demands]

/-! ## Composing -/

/-- A boost demands nothing. -/
theorem Boost.demands_clause (document : Document) (boost : Boost) :
    demands document boost.clause = true := by
  unfold Boost.clause
  split <;> rfl

/-- Beside the required main query only the filters have a say. -/
theorem selects_joined_iff (document : Document) (main : Query) (boosts : List Boost)
    (filters : List Filter) :
    selects document (.boolean ((.must, main) :: boosts.map Boost.clause
        ++ filters.flatMap Filter.clauses) 0) = true ↔
      selects document main = true ∧ ∀ filter ∈ filters, filter.keeps document = true := by
  have dispensable := needed_of_must (List.mem_append_left (filters.flatMap Filter.clauses)
    (List.mem_cons_self (a := (Occur.must, main)) (l := boosts.map Boost.clause)))
  rw [selects_boolean_iff, dispensable]
  simp only [List.forall_mem_append, List.forall_mem_cons, List.forall_mem_map,
    List.forall_mem_flatMap, demands_must, Boost.demands_clause, Filter.demands_clauses_iff,
    Nat.zero_le, implies_true, and_true]

/-- **Composition preserves matching.** The composed query matches a document exactly if the main
query does, with its threshold resolved, all including filters do, and no excluding one does. -/
theorem Expansion.selects_compose {expansion : Expansion} {threshold : Option Threshold}
    {composed : Query} (success : expansion.compose threshold = .ok composed)
    (document : Document) :
    selects document composed = true ↔
      selects document (withThreshold threshold expansion.main) = true ∧
        ∀ filter ∈ expansion.filters, filter.keeps document = true := by
  unfold compose at success
  split at success
  · cases success
  · simp only at success
    split at success
    · rename_i untouched
      cases success
      have unfiltered : expansion.filters = [] := by
        simp only [Bool.and_eq_true, List.isEmpty_iff] at untouched
        exact untouched.2
      simp [selects_collapse, unfiltered]
    · cases success
      exact selects_joined_iff document _ expansion.boosts expansion.filters

/-! ### A search with both kinds of filters -/

/-- Shoes that are red; leather is preferred, and nothing sold, lost or used is wanted. -/
def search : Expansion where
  main := .boolean [(.should, .term "text" "red"), (.should, .term "text" "shoes")] 0
  boosts := [⟨.term "text" "leather", unitWeight⟩]
  filters := [⟨.boolean [(.mustNot, .term "state" "sold"), (.mustNot, .term "state" "lost")] 0,
      .include⟩, ⟨.term "text" "used", .exclude⟩]

/-- Both words are wanted, and what is sold, lost or used is not. -/
def composedSearch : Query :=
  .boolean [(.must, .boolean [(.should, .term "text" "red"), (.should, .term "text" "shoes")] 2),
    (.should, .term "text" "leather"), (.mustNot, .term "state" "sold"),
    (.mustNot, .term "state" "lost"), (.mustNot, .term "text" "used")] 0

/-- A document with the same words in every field. -/
def Document.ofWords (words : List String) : Document where
  holds _ value := value ∈ words

/-- With both words asked for, a document of one of them does not match. -/
theorem search_selects :
    search.compose (some ⟨"100%", .simple (.percent 100)⟩) = .ok composedSearch ∧
      selects (.ofWords ["red", "shoes"]) composedSearch = true ∧
      ¬ selects (.ofWords ["red", "leather"]) composedSearch = true := by
  have success : search.compose (some ⟨"100%", .simple (.percent 100)⟩) = .ok composedSearch := rfl
  refine ⟨success, ?_, ?_⟩
  · rw [Expansion.selects_compose success]
    decide
  · rw [Expansion.selects_compose success]
    decide

end QueryRewriting

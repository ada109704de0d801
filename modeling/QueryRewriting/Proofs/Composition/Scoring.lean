import QueryRewriting.Proofs.Composition.Matching
import QueryRewriting.Proofs.Query.Scoring

/-! # Composition preserves scoring

The composed query scores a document by what the main query scores, followed by what the boosts
score, in their order. The clauses of filters stand where nothing scores, also those that were
scoring clauses before they were lifted.
-/

namespace QueryRewriting

open Query

/-! ## Main query, boosts and filters -/

/-- Collapsing a query changes nothing about what it scores. -/
theorem scores_collapse (document : Document) (query : Query) :
    scores document (collapse query) = scores document query := by
  have same := selects_collapse document query
  unfold collapse at same ⊢
  split at same
  · rename_i occur inner minimum
    by_cases scoring : occur.isScoring = true
    · rw [if_pos scoring] at same ⊢
      cases matched : selects document inner with
      | true => simp [scores, clauseScores, ← same, matched, scoring]
      | false => simp [scores, ← same, matched, scores_of_not_selects matched]
    · rw [if_neg scoring]
  · rfl

/-- What a boost contributes: its query scores, under its weight unless that is one. -/
def Boost.scores (document : Document) (boost : Boost) : List Contribution :=
  if selects document boost.query then
    if boost.weight = unitWeight then Query.scores document boost.query
    else (Query.scores document boost.query).map (·.boosted boost.weight)
  else []

/-- The clause of a boost scores what the boost does. -/
theorem Boost.clauseScores_clause (document : Document) (boost : Boost) :
    clauseScores document [boost.clause] = boost.scores document := by
  unfold clause Boost.scores
  split
  · simp [clauseScores, Occur.isScoring]
  · simp [clauseScores, Occur.isScoring, selects, Query.scores]

/-- The clauses of boosts score what the boosts do, one after the other. -/
theorem clauseScores_boosts (document : Document) (boosts : List Boost) :
    clauseScores document (boosts.map Boost.clause) =
      boosts.flatMap (Boost.scores document) := by
  induction boosts with
  | nil => rfl
  | cons boost rest ih =>
      rw [List.map_cons, List.flatMap_cons, ← ih, ← boost.clauseScores_clause document,
        ← clauseScores_append, List.singleton_append]

/-- No clause of a filter scores. -/
theorem Filter.not_isScoring (filter : Filter) :
    ∀ clause ∈ filter.clauses, clause.1.isScoring = false := by
  have lifted (clause : Clause) : (liftClause clause).1.isScoring = false := by
    unfold liftClause
    split <;> rfl
  obtain ⟨query, polarity⟩ := filter
  cases polarity with
  | exclude => simp [clauses, Occur.isScoring]
  | «include» =>
      cases query with
      | boolean inner minimum =>
          by_cases liftable : isLiftable inner minimum = true
          · simp only [clauses, liftable, if_true, List.forall_mem_map]
            exact fun clause _ => lifted clause
          · simp [clauses, liftable, Occur.isScoring]
      | _ => simp [clauses, Occur.isScoring]

/-! ## Composing -/

/-- A composed query scores what its main query does, and then what its boosts do. -/
theorem scores_joined (document : Document) (main : Query) (boosts : List Boost)
    (filters : List Filter) :
    clauseScores document ((.must, main) :: boosts.map Boost.clause
        ++ filters.flatMap Filter.clauses) =
      scores document main ++ boosts.flatMap (Boost.scores document) := by
  have silent : clauseScores document (filters.flatMap Filter.clauses) = [] := by
    refine clauseScores_of_not_isScoring ?_
    rw [List.forall_mem_flatMap]
    exact fun filter _ => filter.not_isScoring
  have required : clauseScores document [(.must, main)] = scores document main := by
    rw [clauseScores_eq_flatMap]
    exact List.append_nil _
  rw [clauseScores_append, silent, List.append_nil, ← List.singleton_append, clauseScores_append,
    required, clauseScores_boosts]

/-- **Composition preserves scoring.** A document that the composed query matches is scored by what
the main query scores, with its threshold resolved, and then by what each boost scores; filters
contribute nothing. -/
theorem Expansion.scores_compose {expansion : Expansion} {threshold : Option Threshold}
    {composed : Query} (success : expansion.compose threshold = .ok composed)
    {document : Document} (matched : selects document composed = true) :
    scores document composed =
      scores document (withThreshold threshold expansion.main)
        ++ expansion.boosts.flatMap (Boost.scores document) := by
  unfold compose at success
  split at success
  · cases success
  · simp only at success
    split at success
    · rename_i untouched
      cases success
      have unboosted : expansion.boosts = [] := by
        simp only [Bool.and_eq_true, List.isEmpty_iff] at untouched
        exact untouched.1
      rw [scores_collapse, unboosted, List.flatMap_nil, List.append_nil]
    · cases success
      rw [scores, if_pos matched]
      exact scores_joined document _ expansion.boosts expansion.filters

/-! ### A promotion with a filter that is lifted -/

/-- Twice the weight of one. -/
def doubleWeight : Decimal.Single := Decimal.Binary.ofNat 2

/-- Shoes, best in red and for running; leather counts, and what is new counts twice. Only what can
be had in the shop is wanted, which is said by clauses that score. -/
def promotion : Expansion where
  main := .boolean [(.must, .term "text" "shoes"),
    (.should, .boosted (.term "text" "red") doubleWeight), (.should, .term "text" "running")] 0
  boosts := [⟨.term "text" "leather", unitWeight⟩, ⟨.term "text" "new", doubleWeight⟩]
  filters := [⟨.boolean [(.must, .term "state" "shop"), (.should, .matchAll)] 2, .include⟩]

/-- The promotion when half of what the main query would like is asked for. -/
def composedPromotion : Query :=
  .boolean [(.must, .boolean [(.must, .term "text" "shoes"),
      (.should, .boosted (.term "text" "red") doubleWeight), (.should, .term "text" "running")] 1),
    (.should, .term "text" "leather"), (.should, .boosted (.term "text" "new") doubleWeight),
    (.filter, .term "state" "shop"), (.filter, .matchAll)] 0

/-- Shoes that are red and new score by both, and neither what they are not nor the filter does.
Shoes that are only new would do without the threshold, and do not match with it. -/
theorem promotion_scores :
    promotion.compose (some ⟨"50%", .simple (.percent 50)⟩) = .ok composedPromotion ∧
      scores (.ofWords ["shoes", "red", "new", "shop"]) composedPromotion =
        [⟨.term "text" "shoes", []⟩, ⟨.term "text" "red", [doubleWeight]⟩,
          ⟨.term "text" "new", [doubleWeight]⟩] ∧
      selects (.ofWords ["shoes", "new", "shop"]) promotion.main = true ∧
      selects (.ofWords ["shoes", "new", "shop"]) composedPromotion = false := by
  have success : promotion.compose (some ⟨"50%", .simple (.percent 50)⟩) =
      .ok composedPromotion := rfl
  refine ⟨success, ?_, by decide, by decide⟩
  rw [Expansion.scores_compose success (by decide)]
  decide

end QueryRewriting

import QueryRewriting.Proofs.Composition.Boosts
import QueryRewriting.Proofs.Service.Weights

/-! # Queries and answers read back

What a node answers has the boosts of the query that it was asked for, and behind them the weights
that its rewriters added, which are finite. So an answer is read back just if the query could have
been. -/

namespace QueryRewriting

open Decimal Json Kind Query

/-! ## What a chain adds -/

/-- An expansion of a query by boosts and filters that have no boosts inside. -/
structure Expansion.Flat (query : Query) (expansion : Expansion) : Prop where
  main : expansion.main.boosts = query.boosts
  boosts : ∀ boost ∈ expansion.boosts, boost.query.boosts = []
  filters : ∀ filter ∈ expansion.filters, filter.query.boosts = []

variable {query : Query}

/-- Where nothing was added, all weights are those of the query. -/
theorem Expansion.flat_ofQuery (query : Query) : (Expansion.ofQuery query).Flat query where
  main := rfl
  boosts _ member := nomatch member
  filters _ member := nomatch member

/-- An application adds terms only, each with one weight. -/
theorem Instance.Extends.flat {found : Instance} {context : RewriteContext}
    {before after : Expansion} (extended : found.Extends context before after)
    (flat : before.Flat query) : after.Flat query where
  main := by
    rcases extended.main with same | ⟨rename, renamed⟩
    · rw [same, flat.main]
    · rw [renamed, boosts_mapTerms, flat.main]
  boosts := by
    rw [extended.boosts]
    refine List.forall_mem_append.mpr ⟨flat.boosts, ?_⟩
    exact List.forall_mem_map.mpr fun _ _ => rfl
  filters := by
    obtain ⟨added, same⟩ := extended.filters
    rw [same]
    refine List.forall_mem_append.mpr ⟨flat.filters, ?_⟩
    exact List.forall_mem_map.mpr fun _ _ => rfl

/-- What is joined to a query by boosts and filters without boosts inside has a number for each
boost just if the query has. -/
theorem Expansion.Flat.isFinite_compose_iff {expansion : Expansion} (flat : expansion.Flat query)
    {threshold : Option Threshold} {composed : Query}
    (success : expansion.compose threshold = .ok composed) :
    composed.IsFinite ↔ query.IsFinite := by
  have weighs : ∀ boost ∈ expansion.boosts, isBoostWeight boost.weight = true := by
    rcases expansion.compose_cases threshold with ⟨_, weighs⟩ | ⟨_, _, _, refused⟩
    · exact weighs
    · rw [success] at refused
      cases refused
  have added : ∀ x ∈ expansion.boosts.flatMap Boost.written, x.isFinite = true := by
    refine List.forall_mem_flatMap.mpr fun boost member => ?_
    have inside := flat.boosts boost member
    unfold Boost.written
    split
    · rw [inside]
      exact fun _ absent => nomatch absent
    · rw [inside]
      exact List.forall_mem_singleton.mpr (isFinite_of_isBoostWeight (weighs boost member))
  have filtered : expansion.filters.flatMap (·.query.boosts) = [] :=
    List.flatMap_eq_nil_iff.mpr flat.filters
  rw [IsFinite, boosts_compose success, filtered, List.append_nil, List.forall_mem_append,
    flat.main]
  exact and_iff_left added

/-! ## Answers -/

/-- The answer to a request has a number for each boost just if the query of the request has. -/
theorem RewriteRequest.isFinite_answer_iff (request : RewriteRequest) (paramNamespace : String)
    (threshold : Option Threshold) {chain : List Instance}
    (builtin : ∀ found ∈ chain, found.IsBuiltin) {response : RewriteResponse}
    (answered : (request.apply paramNamespace threshold chain).1 = .ok response) :
    response.query.IsFinite ↔ request.query.IsFinite := by
  obtain ⟨applications, expansion, run, -, flat⟩ :=
    applyAll_builtin request.partition paramNamespace (mountAll paramNamespace request.rewriters)
      builtin (Expansion.Flat request.query) (fun _ _ _ _ extended => extended.flat)
      (.ofQuery request.query) (Expansion.flat_ofQuery request.query)
  rw [apply] at answered
  simp only [run] at answered
  cases joined : expansion.compose threshold with
  | error e =>
      rw [joined] at answered
      cases answered
  | ok composed =>
      rw [joined] at answered
      cases answered
      exact flat.isFinite_compose_iff joined

/-- **A query is read back just if its boosts have numbers.** Whatever JSON a query was read from,
what is written for it is read just as that JSON was, unless a boost in it is infinite or no number:
then what is written is refused. The same is true of the query in the answer to a request for it,
whichever boosts and filters the built-in rewriters add. -/
theorem queries_read_back_iff {json : Json} {query : Query}
    (decoded : Query.ofJson json = .ok query) :
    (query.Survives →
      (Query.ofJson query.toJson = Query.ofJson json ↔ query.IsFinite) ∧
        (¬ query.IsFinite → Query.ofJson query.toJson = .error noBoost)) ∧
    ∀ (request : RewriteRequest) paramNamespace threshold chain response, request.query = query →
      (∀ found ∈ chain, found.IsBuiltin) →
      (request.apply paramNamespace threshold chain).1 = .ok response → response.query.Survives →
      (response.query.ReadsBack ↔ query.IsFinite) ∧
        (¬ query.IsFinite → Query.ofJson response.query.toJson = .error noBoost) := by
  refine ⟨fun survives => ⟨?_, survives.refused⟩, ?_⟩
  · rw [decoded]
    exact survives.readsBack_iff
  rintro request paramNamespace threshold chain response rfl builtin answered survives
  have same := request.isFinite_answer_iff paramNamespace threshold builtin answered
  rw [← same]
  exact ⟨survives.readsBack_iff, survives.refused⟩

/-! ### Boosts with and without numbers -/

/-- A boosted query in the form of a list. -/
def boostedItems (boost : Json) : Json :=
  .list [.text "boosted", .object [("type", .text "match_all")], boost]

/-- A search for such a query by a rewriter that adds a boost of weight six. -/
def boostedSearch (boost : Single) : RewriteRequest :=
  { scaledSearch (Binary.ofNat 3) with query := .boosted .matchAll boost }

/-- The answer to a boosted query that a promotion was added to. -/
def boostedAnswer (boost : Single) : Query :=
  .boolean [(.must, .boosted .matchAll boost),
    (.should, .boosted (.term "brand" "acme") (Binary.ofNat 6))] 0

/-- A boost of one and a half. -/
def halfAgain : Single := .finite false 12582912 (-23)

/-- A weight of one and a half is read, answered and read back. -/
theorem halfAgain_reads_back :
    Query.ofJson (boostedItems (Json.single halfAgain)) = .ok (.boosted .matchAll halfAgain) ∧
      Query.ofJson (Query.boosted .matchAll halfAgain).toJson =
        Query.ofJson (boostedItems (Json.single halfAgain)) ∧
      ∃ response, ((boostedSearch halfAgain).apply "qrw" none [promotionOf (Binary.ofNat 2)]).1 =
        .ok response ∧ response.query = boostedAnswer halfAgain ∧ response.query.ReadsBack := by
  have decoded : Query.ofJson (boostedItems (Json.single halfAgain)) =
      .ok (.boosted .matchAll halfAgain) := rfl
  have builtin : (promotionOf (Binary.ofNat 2)).IsBuiltin := rfl
  have finite : (Query.boosted .matchAll halfAgain).IsFinite :=
    List.forall_mem_singleton.mpr rfl
  have survives : (Query.boosted .matchAll halfAgain).Survives :=
    List.forall_mem_singleton.mpr fun _ => rfl
  have answerSurvives : (boostedAnswer halfAgain).Survives :=
    List.forall_mem_cons.mpr ⟨fun _ => rfl, List.forall_mem_singleton.mpr fun _ => rfl⟩
  refine ⟨decoded, ?_, ⟨boostedAnswer halfAgain, ["promo"],
    [("promo", "Added 1 boost(s) and 0 filter(s).")]⟩, rfl, rfl, ?_⟩
  · exact ((queries_read_back_iff decoded).1 survives).1.mpr finite
  · exact ((queries_read_back_iff decoded).2 (boostedSearch halfAgain) "qrw" none _ _ rfl
      (List.forall_mem_singleton.mpr builtin) rfl answerSurvives).1.mpr finite

/-- A double beyond the singles, such as `1e39`, is read as a boost that is infinite; the query is
accepted and answered, and neither it nor the answer is read back. -/
theorem huge_boost_lost :
    Query.ofJson (boostedItems (.number (.float (doubleOfDecimal false ⟨1, 39⟩)))) =
        .ok (.boosted .matchAll (.infinite false)) ∧
      Query.ofJson (Query.boosted .matchAll (.infinite false)).toJson = .error noBoost ∧
      (∃ response,
        ((boostedSearch (.infinite false)).apply "qrw" none [promotionOf (Binary.ofNat 2)]).1 =
          .ok response ∧ Query.ofJson response.query.toJson = .error noBoost) :=
  ⟨rfl, rfl, _, rfl, rfl⟩

end QueryRewriting

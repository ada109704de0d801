import Mathlib.Tactic.NormNum
import QueryRewriting.Proofs.Service.Chains

/-! # When a request is refused for the weight of a boost

The rewriters of the built-in kinds leave one way to refuse a request that has found all of them: a
boost whose weight and factor were both accepted, and whose product is rounded to zero. How large a
product is does not matter.
-/

namespace QueryRewriting

open Decimal Kind

/-! ## When composing succeeds -/

/-- Joining fails just if some boost has no legal weight, and then it names the first such weight.
-/
theorem Expansion.compose_cases (expansion : Expansion) (threshold : Option Threshold) :
    (∃ composed, expansion.compose threshold = .ok composed) ∧
        (∀ boost ∈ expansion.boosts, isBoostWeight boost.weight = true) ∨
      ∃ boost ∈ expansion.boosts, isBoostWeight boost.weight = false ∧
        expansion.compose threshold = .error ⟨boost.weight⟩ := by
  unfold compose
  split
  · rename_i boost found
    have illegal := List.find?_some found
    exact .inr ⟨boost, List.mem_of_find?_eq_some found, by simpa using illegal, rfl⟩
  · rename_i none
    refine .inl ⟨?_, fun boost member => ?_⟩
    · simp only
      split
      · exact ⟨_, rfl⟩
      · exact ⟨_, rfl⟩
    · simpa using List.find?_eq_none.mp none boost member

/-! ## Requests -/

namespace RewriteRequest

variable (request : RewriteRequest) (paramNamespace : String)

/-- The boosts that a chain adds to the query of a request. -/
def chainBoosts (chain : List Instance) : List ScaledBoost :=
  QueryRewriting.chainBoosts request.partition paramNamespace
    (mountAll paramNamespace request.rewriters) (.ofQuery request.query) chain

variable {request paramNamespace} in

/-- Every weight and every factor of a request is legal. -/
theorem legal_of_mem_chainBoosts {chain : List Instance} {scaled : ScaledBoost}
    (member : scaled ∈ request.chainBoosts paramNamespace chain) : scaled.Legal :=
  QueryRewriting.legal_of_mem_chainBoosts _ _ _ member

/-- A chain of the three kinds adds the boosts of its rewriters, scaled. -/
theorem applyAll_chainBoosts {chain : List Instance}
    (builtin : ∀ found ∈ chain, found.IsBuiltin) :
    ∃ applications expansion,
      applyAll request.partition paramNamespace (mountAll paramNamespace request.rewriters)
          (.ofQuery request.query) chain = (applications, .ok expansion) ∧
        expansion.boosts = (request.chainBoosts paramNamespace chain).map (·.boost) := by
  obtain ⟨applications, expansion, run, boosts, -⟩ :=
    applyAll_builtin request.partition paramNamespace (mountAll paramNamespace request.rewriters)
      builtin (fun _ => True) (fun _ _ _ _ _ _ => trivial) (.ofQuery request.query) trivial
  exact ⟨applications, expansion, run, boosts⟩

/-- Either no boost fades and the request is answered, or one does and it is refused. -/
theorem apply_cases (threshold : Option Threshold) {chain : List Instance}
    (builtin : ∀ found ∈ chain, found.IsBuiltin) :
    (∃ response, (request.apply paramNamespace threshold chain).1 = .ok response) ∧
        (∀ scaled ∈ request.chainBoosts paramNamespace chain, ¬ scaled.Fades) ∨
      (request.apply paramNamespace threshold chain).1 = .error (.ofBoost ⟨Binary.zero false⟩) ∧
        ∃ scaled ∈ request.chainBoosts paramNamespace chain, scaled.Fades := by
  obtain ⟨applications, expansion, run, boosts⟩ :=
    request.applyAll_chainBoosts paramNamespace builtin
  rw [apply]
  simp only [run]
  rcases expansion.compose_cases threshold with ⟨⟨composed, joined⟩, weighs⟩ | refused
  · refine .inl ⟨⟨.ofApplications applications composed, by rw [joined]⟩, ?_⟩
    intro scaled member
    apply (legal_of_mem_chainBoosts member).isBoostWeight_iff.mp
    apply weighs
    rw [boosts]
    exact List.mem_map_of_mem member
  · obtain ⟨boost, member, illegal, refused⟩ := refused
    rw [boosts] at member
    obtain ⟨scaled, added, rfl⟩ := List.mem_map.mp member
    have legal := legal_of_mem_chainBoosts added
    have fades : scaled.Fades := by
      by_contra stays
      rw [legal.isBoostWeight_iff.mpr stays] at illegal
      cases illegal
    refine .inr ⟨?_, scaled, added, fades⟩
    rw [refused, legal.weight_of_fades fades]

variable {request paramNamespace} in
/-- **A request that has found its rewriters is refused only if a boost fades.** A chain of built-in
rewriters runs to its end, and every boost that it adds has a finite weight. The weight is greater
than zero, and the request is answered, unless the exact product of a configured weight and its
factor is at most half of the least single; a refusal always names the weight zero. -/
theorem answered_unless_fades (threshold : Option Threshold) {chain : List Instance}
    (builtin : ∀ found ∈ chain, found.IsBuiltin) :
    (∃ applications expansion,
      applyAll request.partition paramNamespace (mountAll paramNamespace request.rewriters)
          (.ofQuery request.query) chain = (applications, .ok expansion) ∧
        expansion.boosts = (request.chainBoosts paramNamespace chain).map (·.boost)) ∧
    (∀ scaled ∈ request.chainBoosts paramNamespace chain,
      scaled.boost.weight.isFinite = true ∧
        (isBoostWeight scaled.boost.weight = true ↔ ¬ scaled.Fades)) ∧
    ((∃ response, (request.apply paramNamespace threshold chain).1 = .ok response) ↔
      ∀ scaled ∈ request.chainBoosts paramNamespace chain, ¬ scaled.Fades) ∧
    ∀ e, (request.apply paramNamespace threshold chain).1 = .error e →
      e = .ofBoost ⟨Binary.zero false⟩ := by
  refine ⟨request.applyAll_chainBoosts paramNamespace builtin, fun scaled member => ?_, ?_, ?_⟩
  · have legal := legal_of_mem_chainBoosts member
    exact ⟨legal.isFinite_weight, legal.isBoostWeight_iff⟩
  · rcases request.apply_cases paramNamespace threshold builtin with
      ⟨answered, stay⟩ | ⟨refused, scaled, member, fades⟩
    · exact iff_of_true answered stay
    · refine iff_of_false ?_ (fun stay => stay scaled member fades)
      rintro ⟨response, answered⟩
      rw [refused] at answered
      cases answered
  · intro e refused
    rcases request.apply_cases paramNamespace threshold builtin with
      ⟨⟨response, answered⟩, _⟩ | ⟨zero, _⟩
    · rw [answered] at refused
      cases refused
    · rw [zero] at refused
      exact (Except.error.inj refused).symm

end RewriteRequest

/-! ### A promotion that is scaled down -/

/-- A configuration of one boost, as it is written. -/
def promotionConfig (weight : Double) : Json.Fields :=
  [("boosts", .list [.object [("field", .text "brand"), ("value", .text "acme"),
    ("weight", .number (.float weight))]])]

/-- The rewriter of such a configuration, as a cache holds it. -/
def promotionOf (weight : Double) : Instance where
  serial := 0
  id := "promo"
  definition := ⟨"promo", "clauses", promotionConfig weight, none, currentVersion⟩
  rewriter := ClausesSettings.rewriter ⟨[], [⟨"brand", "acme", weight.convert⟩], []⟩ "promo"
  stamp := 0

/-- A search for one word that scales the weights of the promotion. -/
def scaledSearch (factor : Double) : RewriteRequest where
  partition := ⟨"products", 0⟩
  rewriters := [⟨"promo", some [("weight_factor", .number (.float factor))]⟩]
  query := .term "title" "a"
  threshold? := none

/-- The double nearest to `1e-30`. -/
def faint : Double := Json.doubleOfDecimal false ⟨1, -30⟩

/-- A boost of weight two stays, however faint its factor. -/
theorem heavy_answered :
    (promotionOf (Binary.ofNat 2)).IsBuiltin ∧
      ∃ response, ((scaledSearch faint).apply "qrw" none [promotionOf (Binary.ofNat 2)]).1 =
        .ok response := by
  have builtin : (promotionOf (Binary.ofNat 2)).IsBuiltin := rfl
  refine ⟨builtin, ?_⟩
  have added : (scaledSearch faint).chainBoosts "qrw" [promotionOf (Binary.ofNat 2)] =
      [⟨⟨"brand", "acme", .finite false 8388608 (-22)⟩, .finite false 10633824 (-123)⟩] := rfl
  refine (RewriteRequest.answered_unless_fades none ?_).2.2.1.mpr ?_
  · exact List.forall_mem_singleton.mpr builtin
  · rw [added]
    refine List.forall_mem_singleton.mpr ?_
    norm_num [ScaledBoost.Fades, Binary.size]

/-- A weight and a factor of `1e-30` are both accepted, and the request is refused for their
product. -/
theorem faint_refused :
    ClausesSettings.ofConfig (promotionConfig faint) =
        .ok ⟨[], [⟨"brand", "acme", faint.convert⟩], []⟩ ∧
      (promotionOf faint).IsBuiltin ∧
      isBoostWeight faint.convert = true ∧
      ((scaledSearch faint).apply "qrw" none [promotionOf faint]).1 =
        .error (.ofBoost ⟨Binary.zero false⟩) :=
  ⟨rfl, rfl, rfl, rfl⟩

end QueryRewriting

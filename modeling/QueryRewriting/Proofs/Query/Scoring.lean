import QueryRewriting.Proofs.Query.Matching

/-! # What the score of a document is made of

A document is scored by the leaves of a query that it matches, each with the boosts that stand
around it. Required and optional clauses score, filtering and excluding ones do not, and a query
that does not match a document does not score it. -/

namespace QueryRewriting

open Decimal

/-- The part of a query that scores by itself. -/
inductive Leaf where
  | everything
  | term (field value : String)
  deriving DecidableEq, Repr

/-- A leaf that takes part in a score, and the boosts around it, the innermost first. -/
structure Contribution where
  leaf : Leaf
  factors : List Single
  deriving DecidableEq, Repr

/-- The same contribution with one more boost around it. -/
def Contribution.boosted (boost : Single) (contribution : Contribution) : Contribution :=
  { contribution with factors := contribution.factors ++ [boost] }

namespace Query

mutual

/-- What scores a document, in the order of the clauses. -/
def scores (document : Document) : Query → List Contribution
  | .matchAll => [⟨.everything, []⟩]
  | .term field value => if document.holds field value then [⟨.term field value, []⟩] else []
  | .boosted query boost => (scores document query).map (·.boosted boost)
  | .boolean clauses minimum =>
    if selects document (.boolean clauses minimum) then clauseScores document clauses else []

/-- What the scoring clauses that match contribute. -/
def clauseScores (document : Document) : List Clause → List Contribution
  | [] => []
  | (occur, query) :: rest =>
    (if occur.isScoring && selects document query then scores document query else [])
      ++ clauseScores document rest

end

/-- A document that does not match is not scored. -/
theorem scores_of_not_selects {document : Document} {query : Query}
    (unmatched : selects document query = false) : scores document query = [] := by
  match query with
  | .matchAll => cases unmatched
  | .term field value =>
      rw [selects] at unmatched
      simp [scores, unmatched]
  | .boosted inner boost =>
      rw [selects] at unmatched
      rw [scores, scores_of_not_selects unmatched, List.map_nil]
  | .boolean clauses minimum => simp [scores, unmatched]

/-- A clause contributes what its query scores, if it scores at all. -/
theorem clauseScores_eq_flatMap (document : Document) (clauses : List Clause) :
    clauseScores document clauses = clauses.flatMap fun clause =>
      if clause.1.isScoring then scores document clause.2 else [] := by
  induction clauses with
  | nil => rfl
  | cons clause rest ih =>
      obtain ⟨occur, query⟩ := clause
      rw [clauseScores, List.flatMap_cons, ih]
      cases matched : selects document query with
      | true => simp
      | false => simp [scores_of_not_selects matched]

theorem clauseScores_append (document : Document) (clauses more : List Clause) :
    clauseScores document (clauses ++ more) =
      clauseScores document clauses ++ clauseScores document more := by
  simp only [clauseScores_eq_flatMap, List.flatMap_append]

/-- Clauses that do not score contribute nothing. -/
theorem clauseScores_of_not_isScoring {document : Document} {clauses : List Clause}
    (silent : ∀ clause ∈ clauses, clause.1.isScoring = false) :
    clauseScores document clauses = [] := by
  rw [clauseScores_eq_flatMap, List.flatMap_eq_nil_iff]
  intro clause member
  simp [silent clause member]

end Query

end QueryRewriting

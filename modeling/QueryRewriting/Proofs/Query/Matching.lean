import QueryRewriting.Query

/-! # Which documents a query matches

A boolean query matches where its required clauses match, its excluding ones do not, and enough of
the optional ones do. How many are enough is told by its threshold, and where that is zero by
whether there is anything required.
-/

namespace QueryRewriting

/-- What a query can ask of a document: whether a value stands in a field. -/
structure Document where
  holds : String → String → Bool

namespace Query

/-- How many optional clauses have to match. -/
def needed (clauses : List Clause) (minimum : UInt32) : Nat :=
  if 0 < minimum.toNat then min minimum.toNat (countClauses .should clauses)
  else if 0 < countClauses .should clauses ∧ countClauses .must clauses = 0
      ∧ countClauses .filter clauses = 0 then 1
  else 0

mutual

/-- Whether a query matches a document. -/
def selects (document : Document) : Query → Bool
  | .matchAll => true
  | .term field value => document.holds field value
  | .boosted query _ => selects document query
  | .boolean clauses minimum =>
    permits document clauses && needed clauses minimum ≤ hits document clauses

/-- Whether all required clauses match and none of the excluding ones. -/
def permits (document : Document) : List Clause → Bool
  | [] => true
  | (.must, query) :: rest => selects document query && permits document rest
  | (.filter, query) :: rest => selects document query && permits document rest
  | (.mustNot, query) :: rest => !selects document query && permits document rest
  | (.should, _) :: rest => permits document rest

/-- How many optional clauses match. -/
def hits (document : Document) : List Clause → Nat
  | [] => 0
  | (.should, query) :: rest => (if selects document query then 1 else 0) + hits document rest
  | (_, _) :: rest => hits document rest

end

variable {document : Document} {clauses : List Clause} {minimum : UInt32}

/-- What a clause demands by itself, whatever the others. -/
def demands (document : Document) : Clause → Bool
  | (.must, query) => selects document query
  | (.filter, query) => selects document query
  | (.mustNot, query) => !selects document query
  | (.should, _) => true

/-- A required clause demands that its query matches. -/
@[simp] theorem demands_must (document : Document) (query : Query) :
    demands document (.must, query) = selects document query := rfl

/-- A document is permitted if it meets the demands of all clauses. -/
theorem permits_iff (document : Document) (clauses : List Clause) :
    permits document clauses = true ↔ ∀ clause ∈ clauses, demands document clause = true := by
  induction clauses with
  | nil => simp [permits]
  | cons clause rest ih =>
      obtain ⟨occur, query⟩ := clause
      cases occur <;> simp [permits, demands, ih]

/-- The hits are the optional clauses that match. -/
theorem hits_eq_countP (document : Document) (clauses : List Clause) :
    hits document clauses =
      clauses.countP fun clause => clause.1 == .should && selects document clause.2 := by
  induction clauses with
  | nil => rfl
  | cons clause rest ih =>
      obtain ⟨occur, query⟩ := clause
      rw [List.countP_cons, ← ih]
      cases occur <;> simp [hits, Nat.add_comm]

/-- A boolean query matches if all demands are met and enough optional clauses match. -/
theorem selects_boolean_iff :
    selects document (.boolean clauses minimum) = true ↔
      (∀ clause ∈ clauses, demands document clause = true) ∧
        needed clauses minimum ≤ hits document clauses := by
  simp [selects, permits_iff]

/-- As many optional clauses match as there are, exactly if every one of them matches. -/
theorem countClauses_le_hits_iff :
    countClauses .should clauses ≤ hits document clauses ↔
      ∀ clause ∈ clauses, clause.1 = .should → selects document clause.2 = true := by
  let optional := clauses.filter fun clause => clause.1 == .should
  have count : countClauses .should clauses = optional.length := List.countP_eq_length_filter
  have matching : hits document clauses =
      optional.countP fun clause => selects document clause.2 := by
    rw [hits_eq_countP, List.countP_filter]
    simp only [Bool.and_comm]
  rw [count, matching]
  calc optional.length ≤ optional.countP (fun clause => selects document clause.2)
      ↔ optional.countP (fun clause => selects document clause.2) = optional.length :=
        ⟨fun atLeast => Nat.le_antisymm List.countP_le_length atLeast,
          fun same => Nat.le_of_eq same.symm⟩
    _ ↔ ∀ clause ∈ optional, selects document clause.2 = true := List.countP_eq_length
    _ ↔ ∀ clause ∈ clauses, clause.1 = .should → selects document clause.2 = true := by
        simp [optional]

/-- Beside a required clause, optional ones are dispensable. -/
theorem needed_of_must {query : Query} (required : (.must, query) ∈ clauses) :
    needed clauses 0 = 0 := by
  have counted : 0 < countClauses .must clauses :=
    List.countP_pos_iff.mpr ⟨_, required, rfl⟩
  have several : ¬ countClauses .must clauses = 0 := by omega
  simp [needed, several]

end Query

end QueryRewriting

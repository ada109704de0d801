import QueryRewriting.Query.Codec

/-! # Queries read back

A query is read back from what is written for it, whatever form it was read from itself: every field
is written, except a threshold of zero, which is what a missing one stands for. The exception is a
boost that is infinite or no number. There is no number to write for it, and what is written in its
place is not read as a boost. -/

namespace QueryRewriting

open Decimal Json

/-! ## Boosts -/

/-- A datum whose number is read as the datum again. -/
def Decimal.Binary.Survives (x : Single) : Prop := (Json.single x).asSingle = .ok x

namespace Query

mutual

/-- The boosts in a query, in the order in which they are written. -/
def boosts : Query → List Single
  | .matchAll => []
  | .term _ _ => []
  | .boosted query boost => boost :: boosts query
  | .boolean clauses _ => clauseBoosts clauses

/-- The weights in some clauses. -/
def clauseBoosts : List Clause → List Single
  | [] => []
  | (_, query) :: rest => boosts query ++ clauseBoosts rest

end

/-- What is wrong with the boost that is written for a datum without a number. -/
def noBoost : Mismatch := .wrongType .null "f32"

/-- What a part of a query is read as, given the boosts in it. -/
def readBack {α : Type} (boosts : List Single) (part : α) : Decoded α :=
  if boosts.all (·.isFinite) then .ok part else .error noBoost

theorem readBack_map {α β : Type} (xs : List Single) (a : α) (form : α → β) :
    (do return form (← readBack xs a)) = readBack xs (form a) := by
  unfold readBack
  cases xs.all (·.isFinite) <;> rfl

/-- What is read back in two parts is read back as a whole. -/
theorem readBack_append {α β γ : Type} (xs ys : List Single) (a : α) (b : β) (join : α → β → γ) :
    (do return join (← readBack xs a) (← readBack ys b)) = readBack (xs ++ ys) (join a b) := by
  unfold readBack
  rw [List.all_append]
  cases xs.all (·.isFinite) with
  | true => cases ys.all (·.isFinite) <;> rfl
  | false => rfl

/-- A weight is read back as it was written, if it is finite. -/
theorem asSingle_single {x : Single} (survives : x.isFinite = true → x.Survives) :
    (Json.single x).asSingle = readBack [x] x := by
  cases x with
  | finite negative significand exponent => exact survives rfl
  | _ => rfl

/-! ## Forms -/

/-- How a boosted query is read. -/
theorem ofJson_boosted (boost query : Json) :
    ofJson (.object [("boost", boost), ("query", query), ("type", .text "boosted")]) =
      (do
        let boost ← boost.asSingle
        return .boosted (← ofJson query) boost) := by
  have tagged : findTag "type" Form.names none
      [("boost", boost), ("query", query), ("type", .text "boosted")] = .ok .boosted := rfl
  rw [ofJson, tagged]
  simp [boostedFields, once, need, bind, Except.bind, pure, Except.pure]

/-- How a boolean query is read that asks for no minimum. -/
theorem ofJson_boolean (clauses : List Json) :
    ofJson (.object [("clauses", .list clauses), ("type", .text "boolean")]) =
      (do return .boolean (← clauseItems true clauses) 0) := by
  have tagged : findTag "type" Form.names none
      [("clauses", .list clauses), ("type", .text "boolean")] = .ok .boolean := rfl
  rw [ofJson, tagged]
  simp [booleanFields, clausesOfJson, once, bind, Except.bind, pure, Except.pure]

/-- A number of 32 bits is read as it was written. -/
theorem asUInt32_whole (n : UInt32) : (Json.whole n.toNat).asUInt32 = .ok n := by
  have bound : (0 : Int) ≤ n.toNat ∧ (n.toNat : Int) ≤ 4294967295 := by
    have below := n.toNat_lt
    omega
  simp [asUInt32, asWhole, Json.whole, bound, Except.map]

/-- How a boolean query is read that asks for a minimum. -/
theorem ofJson_boolean_minimum (clauses : List Json) (minimum : UInt32) :
    ofJson (.object [("clauses", .list clauses),
      ("minimum_should_match", Json.whole minimum.toNat), ("type", .text "boolean")]) =
      (do return .boolean (← clauseItems true clauses) minimum) := by
  have tagged : findTag "type" Form.names none [("clauses", .list clauses),
      ("minimum_should_match", Json.whole minimum.toNat), ("type", .text "boolean")] =
        .ok .boolean := rfl
  rw [ofJson, tagged]
  simp [booleanFields, clausesOfJson, once, bind, Except.bind, pure, Except.pure, asUInt32_whole]

/-- How a clause is read. -/
theorem clauseOfJson_eq (occur : Occur) (query : Json) :
    clauseOfJson true (.object [("occur", .text occur.name), ("query", query)]) =
      (do return (occur, ← ofJson query)) := by
  have named : (Json.text occur.name).asVariant Occur.names true = .ok occur := by
    cases occur <;> rfl
  simp [clauseOfJson, clauseFields, once, need, bind, Except.bind, pure, Except.pure, named]

/-! ## Reading back -/

mutual

/-- **What is written for a query is read as the query**, unless one of its boosts has no number. -/
theorem ofJson_toJson (query : Query)
    (survive : ∀ x ∈ query.boosts, x.isFinite = true → x.Survives) :
    ofJson query.toJson = readBack query.boosts query := by
  match query with
  | .matchAll => rfl
  | .term field value => rfl
  | .boosted inner boost =>
      rw [boosts] at survive ⊢
      obtain ⟨first, others⟩ := List.forall_mem_cons.mp survive
      rw [toJson, ofJson_boosted, asSingle_single first, ofJson_toJson inner others]
      exact readBack_append [boost] inner.boosts boost inner fun boost query => boosted query boost
  | .boolean clauses minimum =>
      rw [boosts] at survive ⊢
      have items := clauseItems_toJson clauses survive
      rw [toJson]
      split
      · rename_i zero
        rw [ofJson_boolean, items, zero]
        exact readBack_map _ clauses (boolean · 0)
      · rw [ofJson_boolean_minimum, items]
        exact readBack_map _ clauses (boolean · minimum)

theorem clauseItems_toJson (clauses : List Clause)
    (survive : ∀ x ∈ clauseBoosts clauses, x.isFinite = true → x.Survives) :
    clauseItems true (clausesToJson clauses) = readBack (clauseBoosts clauses) clauses := by
  match clauses with
  | [] => rfl
  | (occur, query) :: rest =>
      rw [clauseBoosts] at survive ⊢
      obtain ⟨first, others⟩ := List.forall_mem_append.mp survive
      have clause : clauseOfJson true
          (.object [("occur", .text occur.name), ("query", query.toJson)]) =
            readBack query.boosts (occur, query) := by
        rw [clauseOfJson_eq, ofJson_toJson query first]
        exact readBack_map _ query (Prod.mk occur)
      rw [clausesToJson, clauseItems, clause, clauseItems_toJson rest others]
      exact readBack_append query.boosts (clauseBoosts rest) (occur, query) rest List.cons

end

/-- A query whose finite boosts are read as they are written. -/
def Survives (query : Query) : Prop := ∀ x ∈ query.boosts, x.isFinite = true → x.Survives

/-- A query whose boosts all have numbers. -/
def IsFinite (query : Query) : Prop := ∀ x ∈ query.boosts, x.isFinite = true

/-- What is written for a query is read as the query. -/
def ReadsBack (query : Query) : Prop := ofJson query.toJson = .ok query

variable {query : Query}

/-- A query with finite weights is read back as it was written. -/
theorem Survives.readsBack (survives : query.Survives) (finite : query.IsFinite) :
    query.ReadsBack := by
  rw [ReadsBack, ofJson_toJson query survives, readBack, if_pos (List.all_eq_true.mpr finite)]

/-- A query with a weight that is not finite is refused when it is read. -/
theorem Survives.refused (survives : query.Survives) (infinite : ¬ query.IsFinite) :
    ofJson query.toJson = .error noBoost := by
  rw [ofJson_toJson query survives, readBack,
    if_neg (fun all => infinite (List.all_eq_true.mp all))]

/-- A query is read back exactly if its weights are finite. -/
theorem Survives.readsBack_iff (survives : query.Survives) : query.ReadsBack ↔ query.IsFinite := by
  refine ⟨fun back => ?_, survives.readsBack⟩
  by_cases finite : query.IsFinite
  · exact finite
  · rw [ReadsBack, survives.refused finite] at back
    cases back

end Query

end QueryRewriting

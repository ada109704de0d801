import QueryRewriting.Composition

/-! # Renamed terms

Renaming maps the value of every term and keeps everything else of a query: how it is nested, the
parts of its clauses, its fields, boosts and thresholds. So it commutes with resolving a threshold.
-/

namespace QueryRewriting

namespace Query

variable (rename after : String → String → String)

mutual

/-- The terms are what they are renamed to, in their order. -/
theorem terms_mapTerms (query : Query) :
    (query.mapTerms rename).terms =
      query.terms.map fun term => (term.1, rename term.1 term.2) := by
  match query with
  | .matchAll => rfl
  | .term field value => rfl
  | .boosted inner boost => rw [mapTerms, terms, terms, terms_mapTerms inner]
  | .boolean clauses minimum =>
      rw [mapTerms, terms, terms, clauseTerms_mapClauseTerms clauses]

/-- So are the terms of clauses. -/
theorem clauseTerms_mapClauseTerms (clauses : List Clause) :
    clauseTerms (mapClauseTerms rename clauses) =
      (clauseTerms clauses).map fun term => (term.1, rename term.1 term.2) := by
  match clauses with
  | [] => rfl
  | (occur, query) :: rest =>
      rw [mapClauseTerms, clauseTerms, clauseTerms, terms_mapTerms query,
        clauseTerms_mapClauseTerms rest, List.map_append]

end

/-- A renaming that does not look at fields maps the values. -/
theorem termValues_mapTerms (rename : String → String) (query : Query) :
    (query.mapTerms fun _ => rename).termValues = query.termValues.map rename := by
  rw [termValues, terms_mapTerms, termValues, List.map_map, List.map_map]
  rfl

mutual

/-- Renaming twice is renaming once, by one after the other. -/
theorem mapTerms_mapTerms (query : Query) :
    (query.mapTerms rename).mapTerms after =
      query.mapTerms fun field value => after field (rename field value) := by
  match query with
  | .matchAll => rfl
  | .term field value => rfl
  | .boosted inner boost => rw [mapTerms, mapTerms, mapTerms, mapTerms_mapTerms inner]
  | .boolean clauses minimum =>
      rw [mapTerms, mapTerms, mapTerms, mapClauseTerms_mapClauseTerms clauses]

theorem mapClauseTerms_mapClauseTerms (clauses : List Clause) :
    mapClauseTerms after (mapClauseTerms rename clauses) =
      mapClauseTerms (fun field value => after field (rename field value)) clauses := by
  match clauses with
  | [] => rfl
  | (occur, query) :: rest =>
      rw [mapClauseTerms, mapClauseTerms, mapClauseTerms, mapTerms_mapTerms query,
        mapClauseTerms_mapClauseTerms rest]

end

mutual

/-- A renaming that changes no value changes nothing. -/
theorem mapTerms_id (query : Query) : (query.mapTerms fun _ value => value) = query := by
  match query with
  | .matchAll => rfl
  | .term field value => rfl
  | .boosted inner boost => rw [mapTerms, mapTerms_id inner]
  | .boolean clauses minimum => rw [mapTerms, mapClauseTerms_id clauses]

theorem mapClauseTerms_id (clauses : List Clause) :
    mapClauseTerms (fun _ value => value) clauses = clauses := by
  match clauses with
  | [] => rfl
  | (occur, query) :: rest => rw [mapClauseTerms, mapTerms_id query, mapClauseTerms_id rest]

end

/-- Renaming leaves how many clauses play a part. -/
theorem countClauses_mapClauseTerms (occur : Occur) (clauses : List Clause) :
    countClauses occur (mapClauseTerms rename clauses) = countClauses occur clauses := by
  induction clauses with
  | nil => rfl
  | cons clause rest ih =>
      rw [countClauses, countClauses] at ih
      rw [mapClauseTerms, countClauses, countClauses, List.countP_cons, List.countP_cons, ih]

end Query

/-- A threshold counts the same clauses before and after terms are renamed. -/
theorem withThreshold_mapTerms (rename : String → String → String) (threshold : Option Threshold)
    (query : Query) :
    withThreshold threshold (query.mapTerms rename) =
      (withThreshold threshold query).mapTerms rename := by
  cases threshold with
  | none => rfl
  | some threshold =>
      cases query with
      | boolean clauses minimum =>
          simp only [withThreshold, Query.mapTerms, Query.countClauses_mapClauseTerms]
      | _ => rfl

end QueryRewriting

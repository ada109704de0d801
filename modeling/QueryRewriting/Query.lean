import QueryRewriting.Decimal.Binary

/-! # Queries

A query matches documents and scores them. Terms look for a value in a field, a boosted query scales
the score of another, and a boolean query joins clauses, each with the part it plays.
-/

namespace QueryRewriting

open Decimal

/-- The part that a clause plays in a boolean query. -/
inductive Occur where
  /-- Required and scoring. -/
  | must
  /-- Optional and scoring. -/
  | should
  /-- Required and not scoring. -/
  | filter
  /-- Excluded. -/
  | mustNot
  deriving DecidableEq, Repr

/-- Whether a clause of this kind adds to the score. -/
def Occur.isScoring : Occur → Bool
  | .must | .should => true
  | .filter | .mustNot => false

/-- A query. `minimumShouldMatch` is the number of optional clauses that have to match; zero leaves
the choice to the search engine. -/
inductive Query where
  | matchAll
  | term (field value : String)
  | boosted (query : Query) (boost : Single)
  | boolean (clauses : List (Occur × Query)) (minimumShouldMatch : UInt32)
  deriving Repr, Inhabited

/-- A query with the part that it plays in a boolean query. -/
abbrev Clause := Occur × Query

namespace Query

/-- How many clauses play a part. -/
def countClauses (occur : Occur) (clauses : List Clause) : Nat :=
  clauses.countP fun clause => clause.1 == occur

/-- Whether there are clauses and all of them exclude. -/
def isExclusionOnly (clauses : List Clause) : Bool :=
  !clauses.isEmpty && clauses.all fun clause => clause.1 == .mustNot

mutual

/-- Field and value of every term, depth first and in the order of the clauses. -/
def terms : Query → List (String × String)
  | .matchAll => []
  | .term field value => [(field, value)]
  | .boosted query _ => terms query
  | .boolean clauses _ => clauseTerms clauses

/-- The terms of some clauses, in their order. -/
def clauseTerms : List Clause → List (String × String)
  | [] => []
  | (_, query) :: rest => terms query ++ clauseTerms rest

end

/-- The values of the terms of a query, in their order. -/
def termValues (query : Query) : List String :=
  query.terms.map (·.2)

mutual

/-- Gives every term of a query another value. -/
def mapTerms (f : String → String → String) : Query → Query
  | .matchAll => .matchAll
  | .term field value => .term field (f field value)
  | .boosted query boost => .boosted (mapTerms f query) boost
  | .boolean clauses minimum => .boolean (mapClauseTerms f clauses) minimum

/-- Gives every term of some clauses another value. -/
def mapClauseTerms (f : String → String → String) : List Clause → List Clause
  | [] => []
  | (occur, query) :: rest => (occur, mapTerms f query) :: mapClauseTerms f rest

end

end Query

end QueryRewriting

import QueryRewriting.Decimal.Layout
import QueryRewriting.Query
import QueryRewriting.Threshold

/-! # Composing one query

Rewriting leaves a main query, boosts that raise the score of what they match, and filters that
restrict or exclude. They are joined into one query: the main query is required, boosts are
optional, filters are required without scoring or exclude. -/

namespace QueryRewriting

open Decimal

/-- A query that raises the score of the documents it matches. -/
structure Boost where
  query : Query
  weight : Single
  deriving Repr

/-- Whether a filter keeps or drops what it matches. -/
inductive Polarity where
  | include
  | exclude
  deriving DecidableEq, Repr

/-- A query that restricts the documents that match. -/
structure Filter where
  query : Query
  polarity : Polarity
  deriving Repr

/-- What the rewriters of a chain work on. -/
structure Expansion where
  main : Query
  boosts : List Boost
  filters : List Filter
  deriving Repr

/-- The expansion of a query that nothing has touched. -/
def Expansion.ofQuery (main : Query) : Expansion := ⟨main, [], []⟩

/-- A boost whose weight is not a finite number greater than zero. -/
structure InvalidBoost where
  weight : Single
  deriving Repr

/-- What is said of a boost that is refused; the weight is written without an exponent. -/
def InvalidBoost.message (e : InvalidBoost) : String :=
  s!"Boost weight must be a finite number greater than zero, got {Layout.plain.text e.weight}."

/-- A weight that a boost may have. -/
def isBoostWeight (weight : Single) : Bool := weight.isFinite && weight.isPositive

/-- The main query with its threshold resolved against its own optional clauses. -/
def withThreshold (threshold : Option Threshold) (main : Query) : Query :=
  match threshold, main with
  | some threshold, .boolean clauses _ =>
    .boolean clauses (threshold.resolve (Query.countClauses .should clauses))
  | _, main => main

/-- A boolean query of one scoring clause is that clause. -/
def collapse : Query → Query
  | .boolean [(occur, query)] minimum =>
    if occur.isScoring then query else .boolean [(occur, query)] minimum
  | query => query

/-- The weight that changes nothing. -/
def unitWeight : Single := Binary.ofNat 1

/-- A boost as an optional clause; a weight of one needs no boosted query around it. -/
def Boost.clause (boost : Boost) : Clause :=
  if boost.weight = unitWeight then (.should, boost.query)
  else (.should, .boosted boost.query boost.weight)

/-- Whether all clauses of a boolean filter can stand in the outer query by themselves. -/
def isLiftable (clauses : List Clause) (minimumShouldMatch : UInt32) : Bool :=
  Query.isExclusionOnly clauses || clauses.length < 2
    || clauses.length ≤ minimumShouldMatch.toNat

/-- A clause lifted out of a filter: it still excludes, or it is required without scoring. -/
def liftClause (clause : Clause) : Clause :=
  (if clause.1 = .mustNot then .mustNot else .filter, clause.2)

/-- The clauses of a filter: one that excludes forbids its query, one that includes requires it,
clause by clause where that can be said. -/
def Filter.clauses (filter : Filter) : List Clause :=
  match filter.polarity, filter.query with
  | .exclude, query => [(.mustNot, query)]
  | .include, .boolean clauses minimum =>
    if isLiftable clauses minimum then clauses.map liftClause
    else [(.filter, .boolean clauses minimum)]
  | .include, query => [(.filter, query)]

/-- Joins main query, boosts and filters into one query. -/
def Expansion.compose (expansion : Expansion) (threshold : Option Threshold) :
    Except InvalidBoost Query :=
  match expansion.boosts.find? fun boost => !isBoostWeight boost.weight with
  | some boost => .error ⟨boost.weight⟩
  | none =>
    let main := withThreshold threshold expansion.main
    if expansion.boosts.isEmpty && expansion.filters.isEmpty then .ok (collapse main)
    else
      .ok (.boolean ((.must, main) :: expansion.boosts.map Boost.clause
        ++ expansion.filters.flatMap Filter.clauses) 0)

end QueryRewriting

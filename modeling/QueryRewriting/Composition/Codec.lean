import QueryRewriting.Composition
import QueryRewriting.Query.Codec

/-! # The JSON form of boosts and filters -/

namespace QueryRewriting

open Json

/-- Reads a boost: a query and a weight. -/
def Boost.ofJson (json : Json) : Decoded Boost := do
  let record ← json.asRecord "struct BoostQuery" ["query", "weight"] false
  let (query, weight) ← record.fold (none, none) fun (query, weight) key value =>
    match key with
    | "query" => do return (some (← Query.ofJson value), weight)
    | _ => do return (query, some (← value.asSingle))
  record.finish { query := ← record.need "query" query, weight := ← record.need "weight" weight }

/-- The polarities of a filter by their names. -/
def Polarity.names : List (String × Polarity) :=
  [("include", .include), ("exclude", .exclude)]

/-- Reads a filter: a query, and whether it includes or excludes. -/
def Filter.ofJson (json : Json) : Decoded Filter := do
  let record ← json.asRecord "struct FilterQuery" ["query", "polarity"] false
  let (query, polarity) ← record.fold (none, none) fun (query, polarity) key value =>
    match key with
    | "query" => do return (some (← Query.ofJson value), polarity)
    | _ => do return (query, some (← value.asVariant Polarity.names false))
  record.finish
    { query := ← record.need "query" query, polarity := ← record.need "polarity" polarity }

/-- The name of a polarity in JSON. -/
def Polarity.name : Polarity → String
  | .include => "include"
  | .exclude => "exclude"

/-- The JSON form of a boost. -/
def Boost.toJson (boost : Boost) : Json :=
  .object [("query", boost.query.toJson), ("weight", Json.single boost.weight)]

/-- The JSON form of a filter. -/
def Filter.toJson (filter : Filter) : Json :=
  .object [("polarity", .text filter.polarity.name), ("query", filter.query.toJson)]

end QueryRewriting

import QueryRewriting.Json.Tagged
import QueryRewriting.Query

/-! # The JSON form of queries

A query is an object whose key `type` names its form; `minimum_should_match` is left out when it is
zero. A list with the form in front and then the fields in order is understood as well.
-/

namespace QueryRewriting

open Decimal Json

/-- The parts that a clause may play, by their names. -/
def Occur.names : List (String × Occur) :=
  [("must", .must), ("should", .should), ("filter", .filter), ("must_not", .mustNot)]

/-- The name of a part in JSON. -/
def Occur.name : Occur → String
  | .must => "must"
  | .should => "should"
  | .filter => "filter"
  | .mustNot => "must_not"

namespace Query

/-! ## Writing -/

mutual

/-- The JSON form of a query. -/
def toJson : Query → Json
  | .matchAll => .object [("type", .text "match_all")]
  | .term field value =>
    .object [("field", .text field), ("type", .text "term"), ("value", .text value)]
  | .boosted query boost =>
    .object [("boost", Json.single boost), ("query", toJson query), ("type", .text "boosted")]
  | .boolean clauses minimum =>
    if minimum = 0 then
      .object [("clauses", .list (clausesToJson clauses)), ("type", .text "boolean")]
    else
      .object [("clauses", .list (clausesToJson clauses)),
        ("minimum_should_match", Json.whole minimum.toNat), ("type", .text "boolean")]

/-- The JSON forms of some clauses. -/
def clausesToJson : List Clause → List Json
  | [] => []
  | (occur, query) :: rest =>
    .object [("occur", .text occur.name), ("query", toJson query)] :: clausesToJson rest

end

/-! ## Reading -/

/-- The forms a query can have. -/
inductive Form where
  | matchAll
  | term
  | boosted
  | boolean
  deriving DecidableEq

/-- The forms of a query by their names. -/
def Form.names : List (String × Form) :=
  [("match_all", .matchAll), ("term", .term), ("boosted", .boosted), ("boolean", .boolean)]

/-- Reads the field and the value of a term off an object. -/
def termFields (field value : Option String) : Fields → Decoded Query
  | [] => do return .term (← need "field" field) (← need "value" value)
  | ("field", json) :: rest => do
    once "field" field
    termFields (some (← json.asText)) value rest
  | ("value", json) :: rest => do
    once "value" value
    termFields field (some (← json.asText)) rest
  | _ :: rest => termFields field value rest

/-- Reads the field and the value of a term off a list. -/
def termItems : List Json → Decoded Query
  | [] => .error (tooShort "struct variant Query::Term" 0 2)
  | [field] => do
    let _ ← field.asText
    .error (tooShort "struct variant Query::Term" 1 2)
  | field :: value :: more => do
    let field ← field.asText
    let value ← value.asText
    if more.isEmpty then return .term field value
    .error (excess true (2 + more.length) 2)

mutual

/-- Reads a query, in the form of an object or of a list. -/
def ofJson : Json → Decoded Query
  | .object fields => do
    match ← findTag "type" Form.names none fields with
    | .matchAll => return .matchAll
    | .term => termFields none none fields
    | .boosted => boostedFields none none fields
    | .boolean => booleanFields true none none fields
  | .list [] => .error (.missingField "type")
  | .list (tag :: items) => do
    match ← asTag Form.names tag with
    | .matchAll =>
      if items.isEmpty then return .matchAll
      .error (excess true items.length 0)
    | .term => termItems items
    | .boosted => boostedItems items
    | .boolean => booleanItems true items
  | value => .error (.wrongType value "internally tagged enum Query")

/-- Reads the query and the weight of a boosted query off an object. -/
def boostedFields (query : Option Query) (boost : Option Single) : Fields → Decoded Query
  | [] => do return .boosted (← need "query" query) (← need "boost" boost)
  | (key, json) :: rest => do
    if key = "query" then
      once key query
      boostedFields (some (← ofJson json)) boost rest
    else if key = "boost" then
      once key boost
      boostedFields query (some (← json.asSingle)) rest
    else boostedFields query boost rest

/-- Reads the fields of a boosted query out of a list. -/
def boostedItems : List Json → Decoded Query
  | [] => .error (tooShort "struct variant Query::Boosted" 0 2)
  | [query] => do
    let _ ← ofJson query
    .error (tooShort "struct variant Query::Boosted" 1 2)
  | query :: boost :: more => do
    let query ← ofJson query
    let boost ← boost.asSingle
    if more.isEmpty then return .boosted query boost
    .error (excess true (2 + more.length) 2)

/-- Reads the clauses and the minimum of a boolean query off an object; both may be left out. -/
def booleanFields (buffered : Bool) (clauses : Option (List Clause)) (minimum : Option UInt32) :
    Fields → Decoded Query
  | [] => .ok (.boolean (clauses.getD []) (minimum.getD 0))
  | (key, json) :: rest => do
    if key = "clauses" then
      once key clauses
      booleanFields buffered (some (← clausesOfJson buffered json)) minimum rest
    else if key = "minimum_should_match" then
      once key minimum
      booleanFields buffered clauses (some (← json.asUInt32)) rest
    else booleanFields buffered clauses minimum rest

/-- Reads the fields of a boolean query out of a list. -/
def booleanItems (buffered : Bool) : List Json → Decoded Query
  | [] => .ok (.boolean [] 0)
  | [clauses] => do return .boolean (← clausesOfJson buffered clauses) 0
  | clauses :: minimum :: more => do
    let clauses ← clausesOfJson buffered clauses
    let minimum ← minimum.asUInt32
    if more.isEmpty then return .boolean clauses minimum
    .error (excess buffered (2 + more.length) 2)

/-- Reads the clauses of a boolean query. -/
def clausesOfJson (buffered : Bool) : Json → Decoded (List Clause)
  | .list items => clauseItems buffered items
  | value => .error (.wrongType value "a sequence")

/-- Reads some clauses. -/
def clauseItems (buffered : Bool) : List Json → Decoded (List Clause)
  | [] => .ok []
  | item :: rest => do
    let clause ← clauseOfJson buffered item
    return clause :: (← clauseItems buffered rest)

/-- Reads a clause, in the form of an object or of a list. -/
def clauseOfJson (buffered : Bool) : Json → Decoded Clause
  | .object fields => clauseFields buffered none none fields
  | .list [] => .error (tooShort "struct Clause" 0 2)
  | .list [occur] => do
    let _ ← occur.asVariant Occur.names buffered
    .error (tooShort "struct Clause" 1 2)
  | .list (occur :: query :: more) => do
    let occur ← occur.asVariant Occur.names buffered
    let query ← ofJson query
    if more.isEmpty then return (occur, query)
    .error (excess buffered (2 + more.length) 2)
  | value => .error (.wrongType value "struct Clause")

/-- Reads the part and the query of a clause off an object. -/
def clauseFields (buffered : Bool) (occur : Option Occur) (query : Option Query) :
    Fields → Decoded Clause
  | [] => do return (← need "occur" occur, ← need "query" query)
  | (key, json) :: rest => do
    if key = "occur" then
      once key occur
      clauseFields buffered (some (← json.asVariant Occur.names buffered)) query rest
    else if key = "query" then
      once key query
      clauseFields buffered occur (some (← ofJson json)) rest
    else clauseFields buffered occur query rest

end

/-- Reads the bare fields of a boolean query, without the key `type`. -/
def booleanOfJson : Json → Decoded Query
  | .object fields => booleanFields false none none fields
  | .list items => booleanItems false items
  | value => .error (.wrongType value "struct BooleanQuery")

end Query

end QueryRewriting

import QueryRewriting.Json.Decode
import QueryRewriting.Kind
import QueryRewriting.Text.Blank
import QueryRewriting.Text.LowerCase

/-! # Adding clauses

Fixed boosts and filters are added when one of the trigger terms occurs in the main query, or always
when there are no triggers. The request parameter `weight_factor` scales the weights.
-/

namespace QueryRewriting.Kind

open Decimal Json Text

/-- A boost on the documents with a value in a field. -/
structure TermBoost where
  field : String
  value : String
  weight : Single

/-- Keeps, or drops, the documents with a value in a field. -/
structure TermFilter where
  field : String
  value : String
  exclude : Bool

/-- The configuration of added clauses as it is written. -/
structure ClausesSettings where
  triggers : List String
  boosts : List TermBoost
  filters : List TermFilter

/-- The fields `field` and `value` and a third one of a clause, read so far. -/
structure TermFields (α : Type) where
  field : Option String
  value : Option String
  extra : α

/-- Reads a field of a record that is about a term; `extra` reads the one that only this record has.
-/
def TermFields.read {α : Type} (extra : Json → Decoded α) (read : TermFields α) (key : String)
    (json : Json) : Decoded (TermFields α) :=
  match key with
  | "field" => do return { read with field := some (← json.asText) }
  | "value" => do return { read with value := some (← json.asText) }
  | _ => do return { read with extra := ← extra json }

/-- Reads a boost of a term, whose weight is one if it is not given. -/
def TermBoost.ofJson (json : Json) : Decoded TermBoost := do
  let record ← json.asRecord "struct RawBoost" ["field", "value", "weight"] true
  let read ← record.fold (⟨none, none, unitWeight⟩ : TermFields Single) (TermFields.read asSingle)
  record.finish
    { field := ← record.need "field" read.field
      value := ← record.need "value" read.value
      weight := read.extra }

/-- Reads a filter on a term, which includes unless it is said to exclude. -/
def TermFilter.ofJson (json : Json) : Decoded TermFilter := do
  let record ← json.asRecord "struct RawFilter" ["field", "value", "exclude"] true
  let read ← record.fold (⟨none, none, false⟩ : TermFields Bool) (TermFields.read asBool)
  record.finish
    { field := ← record.need "field" read.field
      value := ← record.need "value" read.value
      exclude := read.extra }

/-- Reads the settings, all of which may be left out. -/
def ClausesSettings.ofJson (json : Json) : Decoded ClausesSettings := do
  let record ← json.asRecord "struct RawSettings" ["triggers", "boosts", "filters"] true
  let settings ← record.fold (⟨[], [], []⟩ : ClausesSettings) fun settings key value =>
    match key with
    | "triggers" => do return { settings with triggers := ← value.asList asText }
    | "boosts" => do return { settings with boosts := ← value.asList TermBoost.ofJson }
    | _ => do return { settings with filters := ← value.asList TermFilter.ofJson }
  record.finish settings

/-- What is wrong with the boost at a position. -/
def TermBoost.problems (boost : TermBoost) (position : Nat) : List String :=
  (if isBlank boost.field || isBlank boost.value then
    [s!"boosts[{position}] requires a non-empty field and value."] else [])
  ++ (if isBoostWeight boost.weight then [] else
    [s!"boosts[{position}].weight must be a finite number greater than zero."])

/-- What is wrong with the filter at a position. -/
def TermFilter.problems (filter : TermFilter) (position : Nat) : List String :=
  if isBlank filter.field || isBlank filter.value then
    [s!"filters[{position}] requires a non-empty field and value."] else []

/-- What is wrong with the settings as a whole, and with each of their parts. -/
def ClausesSettings.problems (settings : ClausesSettings) : List String :=
  (if settings.boosts.isEmpty && settings.filters.isEmpty then
    ["At least one of boosts or filters must be non-empty."] else [])
  ++ (if settings.triggers.any isBlank then ["triggers must not contain empty terms."] else [])
  ++ (settings.boosts.zipIdx.flatMap fun (boost, position) => boost.problems position)
  ++ settings.filters.zipIdx.flatMap fun (filter, position) => filter.problems position

/-- The configuration, its triggers in lower case, or everything that is wrong with it. -/
def ClausesSettings.ofConfig (config : Json.Fields) : Except (List String) ClausesSettings :=
  match ClausesSettings.ofJson (.object config) with
  | .error mismatch => .error [s!"{mismatch.message}."]
  | .ok settings =>
    if settings.problems.isEmpty then
      .ok { settings with triggers := settings.triggers.map lower }
    else .error settings.problems

/-- Why the clauses are added. -/
inductive Cause where
  | always
  | trigger (value : String)

/-- Why the clauses are added to a query, if they are: its first trigger term counts. -/
def ClausesSettings.cause? (settings : ClausesSettings) (query : Query) : Option Cause :=
  if settings.triggers.isEmpty then some .always
  else ((query.termValues.map lower).find? settings.triggers.contains).map .trigger

/-- A parameter that can scale weights; anything else leaves them as they are. -/
def weightFactor (param : Option Single) : Single :=
  match param with
  | some factor => if isBoostWeight factor then factor else unitWeight
  | none => unitWeight

/-- A weight scaled by a factor, held at the largest finite weight. -/
def scaleWeight (weight factor : Single) : Single :=
  (weight.mul factor).atMost Binary.largest

/-- The boost that a term is given, its weight scaled. -/
def TermBoost.boost (boost : TermBoost) (factor : Single) : Boost where
  query := .term boost.field boost.value
  weight := scaleWeight boost.weight factor

/-- The filter on a term. -/
def TermFilter.filter (filter : TermFilter) : Filter where
  query := .term filter.field filter.value
  polarity := if filter.exclude then .exclude else .include

/-- What is noted of an application, and what has caused it. -/
def ClausesSettings.note (settings : ClausesSettings) (cause : Cause) : String :=
  let added := s!"{settings.boosts.length} boost(s) and {settings.filters.length} filter(s)."
  match cause with
  | .always => s!"Added {added}"
  | .trigger value => s!"Trigger {quoted value} added {added}"

/-- How much memory the rewriter takes, by a rough count. -/
def ClausesSettings.size (settings : ClausesSettings) (id : String) : Nat :=
  128 + id.utf8ByteSize
    + settings.triggers.foldr (fun trigger size => trigger.utf8ByteSize + 24 + size) 0
    + settings.boosts.foldr
      (fun b size => b.field.utf8ByteSize + b.value.utf8ByteSize + 56 + size) 0
    + settings.filters.foldr
      (fun f size => f.field.utf8ByteSize + f.value.utf8ByteSize + 56 + size) 0

/-- The rewriter of the settings: it adds its boosts and filters when there is a cause to. -/
def ClausesSettings.rewriter (settings : ClausesSettings) (id : String) : Rewriter where
  id := id
  size := settings.size id
  apply context expansion :=
    match settings.cause? expansion.main with
    | none => .ok (expansion, [])
    | some cause =>
      let factor := weightFactor (context.paramSingle? "weight_factor")
      .ok ({ expansion with
        boosts := expansion.boosts ++ settings.boosts.map (·.boost factor)
        filters := expansion.filters ++ settings.filters.map (·.filter) }, [settings.note cause])

/-- The kind of rewriters that add boosts and filters. -/
def clauses : Kind where
  name := "clauses"
  bareSize := fun id => 128 + id.utf8ByteSize
  compile id config := (ClausesSettings.ofConfig config).map (·.rewriter id)

end QueryRewriting.Kind

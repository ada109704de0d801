import QueryRewriting.Json.Decode
import QueryRewriting.Kind
import QueryRewriting.Text.Blank
import QueryRewriting.Text.LowerCase

/-! # Replacing terms

Each rule replaces a whole term value by another one. All rules apply at once, so the target of a
rule is not looked up again. The rewriter can be switched off by the request parameter `enabled`.
-/

namespace QueryRewriting.Kind

open Json Text

/-- The configuration of a replacement as it is written. -/
structure ReplaceSettings where
  rules : Json.Fields
  ignoreCase : Bool

/-- Reads the settings: the rules must be there, and letters count as they are unless said
otherwise. -/
def ReplaceSettings.ofJson (json : Json) : Decoded ReplaceSettings := do
  let record ← json.asRecord "struct RawSettings" ["rules", "ignore_case"] true
  let (rules, ignoreCase) ← record.fold (none, false) fun (rules, ignoreCase) key value =>
    match key with
    | "rules" => do return (some (← value.asFields), ignoreCase)
    | _ => do return (rules, ← value.asBool)
  record.finish { rules := ← record.need "rules" rules, ignoreCase }

/-- The rules of a replacement: source and target of each. -/
structure ReplaceTable where
  rules : List (String × String)
  ignoreCase : Bool
  deriving Repr

/-- The form in which a source is looked for. -/
def sourceKey (ignoreCase : Bool) (value : String) : String :=
  if ignoreCase then lower value else value

/-- What is wrong with a rule, given the sources of the rules before it. -/
def ruleProblem? (ignoreCase : Bool) (seen : List String) (source : String) (target : Json) :
    Option String :=
  match target with
  | .text target =>
    if isBlank (sourceKey ignoreCase source) then
      some "rules must not contain an empty source term."
    else if isBlank target then some s!"rules.{source} must not be empty."
    else if seen.contains (sourceKey ignoreCase source) then
      some s!"rules contains duplicate source term {quoted source}."
    else none
  | _ => some s!"rules.{source} must be a string."

/-- The rules of a table and everything that is wrong with the others. A rule that has a problem of
its own does not make a later one a duplicate. -/
def readRules (ignoreCase : Bool) (seen : List String) :
    Json.Fields → List (String × String) × List String
  | [] => ([], [])
  | (source, target) :: rest =>
    match ruleProblem? ignoreCase seen source target, target with
    | none, .text target =>
      let key := sourceKey ignoreCase source
      let (rules, problems) := readRules ignoreCase (key :: seen) rest
      ((key, target) :: rules, problems)
    | problem, _ =>
      let (rules, problems) := readRules ignoreCase seen rest
      (rules, problem.toList ++ problems)

/-- The table of a configuration, or everything that is wrong with it. -/
def ReplaceTable.ofConfig (config : Json.Fields) : Except (List String) ReplaceTable :=
  match ReplaceSettings.ofJson (.object config) with
  | .error mismatch => .error [s!"{mismatch.message}."]
  | .ok settings =>
    let (rules, problems) := readRules settings.ignoreCase [] settings.rules
    let problems :=
      if settings.rules.isEmpty then "rules must be non-empty." :: problems else problems
    if problems.isEmpty then .ok ⟨rules, settings.ignoreCase⟩ else .error problems

/-- What a value is replaced by. -/
def ReplaceTable.target? (table : ReplaceTable) (value : String) : Option String :=
  table.rules.lookup (sourceKey table.ignoreCase value)

/-- Replaces the values of all terms for which there is a rule. -/
def ReplaceTable.apply (table : ReplaceTable) (query : Query) : Query :=
  query.mapTerms fun _ value => (table.target? value).getD value

/-- One note for each replaced term, in the order of the terms. -/
def ReplaceTable.notes (table : ReplaceTable) (query : Query) : List String :=
  query.terms.filterMap fun (field, value) =>
    (table.target? value).map fun target => s!"{field}:{value} => {target}"

/-- How much memory the rewriter takes, by a rough count. -/
def ReplaceTable.size (table : ReplaceTable) (id : String) : Nat :=
  128 + id.utf8ByteSize
    + table.rules.foldr
      (fun (source, target) size => source.utf8ByteSize + target.utf8ByteSize + 48 + size) 0

/-- Replaces terms unless the request switches the rewriter off. -/
def ReplaceTable.rewriter (table : ReplaceTable) (id : String) : Rewriter where
  id := id
  size := table.size id
  apply context expansion :=
    if context.paramBool? "enabled" = some false then .ok (expansion, [])
    else .ok ({ expansion with main := table.apply expansion.main }, table.notes expansion.main)

/-- The kind of rewriters that replace the values of terms. -/
def replace : Kind where
  name := "replace"
  bareSize := fun id => 128 + id.utf8ByteSize
  compile id config := (ReplaceTable.ofConfig config).map (·.rewriter id)

end QueryRewriting.Kind

import QueryRewriting.Proofs.Composition.Scoring
import QueryRewriting.Proofs.Query.Renaming
import QueryRewriting.Proofs.Service.Admission
import QueryRewriting.Proofs.Service.Weights

/-! # Chains read off their definitions

What a chain of built-in rewriters makes of a query can be read off its definitions without running
it. Each term value goes through the tables in the order of the chain; clauses are added by the
members whose triggers are met by what the members before them made of the terms; and the threshold
of a request counts the clauses of the query that was asked for. -/

namespace QueryRewriting

open Decimal Kind Text

/-! ## Definitions -/

/-- What a definition of a built-in kind tells its rewriter to do. The settings of added clauses are
kept as they are written. -/
inductive Plan where
  | rest
  | replace (table : ReplaceTable)
  | add (settings : ClausesSettings)

namespace Kind

/-- The settings of added clauses in a configuration without faults. -/
def ClausesSettings.written? (config : Json.Fields) : Option ClausesSettings :=
  match ClausesSettings.ofJson (.object config) with
  | .ok settings => if settings.problems.isEmpty then some settings else none
  | .error _ => none

/-- The settings that a rewriter runs are those that were written, in small letters. -/
theorem ClausesSettings.written?_of_ofConfig {config : Json.Fields} {settings : ClausesSettings}
    (accepted : ClausesSettings.ofConfig config = .ok settings) :
    ∃ written, written? config = some written ∧
      settings = { written with triggers := written.triggers.map lower } := by
  unfold ofConfig at accepted
  unfold written?
  split at accepted
  · cases accepted
  · rename_i written read
    by_cases clean : written.problems.isEmpty = true
    · rw [if_pos clean] at accepted
      rw [read]
      exact ⟨written, if_pos clean, (Except.ok.inj accepted).symm⟩
    · rw [if_neg clean] at accepted
      cases accepted

end Kind

/-- The plan of a definition, if it is of a built-in kind and has no faults. -/
def Definition.plan? (d : Definition) : Option Plan :=
  if d.kind = noop.name then if d.config.isEmpty then some .rest else none
  else if d.kind = Kind.replace.name then (ReplaceTable.ofConfig d.config).toOption.map .replace
  else if d.kind = clauses.name then (ClausesSettings.written? d.config).map .add
  else none

/-- The rewriter that carries out a plan. -/
def Plan.rewriter (id : String) : Plan → Rewriter
  | .rest => { id, size := noopSize id, apply := fun _ expansion => .ok (expansion, []) }
  | .replace table => table.rewriter id
  | .add settings =>
    ClausesSettings.rewriter { settings with triggers := settings.triggers.map lower } id

namespace Instance

/-- What the kinds of every node made of a definition carries out its plan. -/
theorem IsBuiltin.plan {found : Instance} (builtin : found.IsBuiltin) :
    ∃ plan, found.definition.plan? = some plan ∧ found.rewriter = plan.rewriter found.id := by
  obtain ⟨kind, member, named, compiled⟩ := load_cases builtin
  unfold Definition.plan?
  rw [← named]
  rcases List.mem_cons.mp member with rfl | member
  · simp only [clauses] at compiled
    cases accepted : ClausesSettings.ofConfig found.definition.config with
    | error messages =>
        rw [accepted] at compiled
        cases compiled
    | ok settings =>
        rw [accepted] at compiled
        obtain ⟨written, reads, rfl⟩ := ClausesSettings.written?_of_ofConfig accepted
        refine ⟨.add written, ?_, (Except.ok.inj compiled).symm⟩
        rw [if_neg (by decide), if_neg (by decide), if_pos rfl, reads]
        rfl
  rcases List.mem_cons.mp member with rfl | member
  · simp only [noop] at compiled
    by_cases empty : found.definition.config.isEmpty = true
    · rw [if_pos empty] at compiled
      refine ⟨.rest, ?_, (Except.ok.inj compiled).symm⟩
      rw [if_pos rfl, if_pos empty]
    · rw [if_neg empty] at compiled
      cases compiled
  · cases List.mem_singleton.mp member
    simp only [Kind.replace] at compiled
    cases accepted : ReplaceTable.ofConfig found.definition.config with
    | error messages =>
        rw [accepted] at compiled
        cases compiled
    | ok table =>
        rw [accepted] at compiled
        refine ⟨.replace table, ?_, (Except.ok.inj compiled).symm⟩
        rw [if_neg (by decide), if_pos rfl]
        rfl

/-- What a request has for an instance under a key: the parameter of this name below the namespace
and the id. -/
def param? (found : Instance) (paramNamespace : String) (params : Params) (key : String) :
    Option Json :=
  params.get? s!"{paramNamespace}.{found.id}.{key}"

/-- What an instance makes of the value of a term. A table that the request has not switched off
puts the target of a rule in the place of its source; nothing else changes a value. -/
def renames (found : Instance) (paramNamespace : String) (params : Params) (value : String) :
    String :=
  match found.definition.plan? with
  | some (.replace table) =>
    match found.param? paramNamespace params "enabled" with
    | some (.bool false) => value
    | _ => (table.rules.lookup (if table.ignoreCase then lower value else value)).getD value
  | _ => value

/-- The factor that a request has for the weights of an instance: its parameter `weight_factor` as a
single, if that is finite and greater than zero, else one. -/
def factor (found : Instance) (paramNamespace : String) (params : Params) : Single :=
  match found.param? paramNamespace params "weight_factor" with
  | some (.number number) =>
    let factor : Single := number.toDouble.convert
    if factor.isFinite && factor.isPositive then factor else Binary.ofNat 1
  | _ => Binary.ofNat 1

/-- The boosts that an instance has: each on one term, with the configured weight times the factor
of the request, held at the largest finite weight. -/
def boosting (found : Instance) (paramNamespace : String) (params : Params)
    (settings : ClausesSettings) : List Boost :=
  settings.boosts.map fun boost =>
    ⟨.term boost.field boost.value,
      (boost.weight.mul (found.factor paramNamespace params)).atMost Binary.largest⟩

end Instance

/-- The filters of some settings: each keeps, or drops, what has one term. -/
def Kind.ClausesSettings.filtering (settings : ClausesSettings) : List Filter :=
  settings.filters.map fun filter =>
    ⟨.term filter.field filter.value, if filter.exclude then .exclude else .include⟩

/-! ## Readings -/

section Reading

variable (paramNamespace : String) (params : Params)

/-- The value of a term behind some members of a chain, each of which takes what the one before it
made. -/
def renamed (front : List Instance) (value : String) : String :=
  front.foldl (fun value found => found.renames paramNamespace params value) value

/-- Whether a member fires on a query behind others: it has no triggers, or one of them is, in lower
case, what the others made of a term. -/
def Fires (query : Query) (front : List Instance) (triggers : List String) : Prop :=
  triggers = [] ∨ ∃ value ∈ query.termValues, ∃ trigger ∈ triggers,
    lower (renamed paramNamespace params front value) = lower trigger

/-- Whether a rewriter has a cause can be decided. -/
instance (query : Query) (front : List Instance) (triggers : List String) :
    Decidable (Fires paramNamespace params query front triggers) :=
  inferInstanceAs (Decidable (_ ∨ _))

/-- What a member adds to a query behind others; `read` says what it has by its settings. -/
def addedBehind {α : Type} (read : Instance → ClausesSettings → List α) (query : Query)
    (front : List Instance) (found : Instance) : List α :=
  match found.definition.plan? with
  | some (.add settings) =>
    if Fires paramNamespace params query front settings.triggers then read found settings else []
  | _ => []

/-- What the members of a chain add to a query, each behind those before it. -/
def added {α : Type} (read : Instance → ClausesSettings → List α) (query : Query)
    (chain : List Instance) : List α :=
  chain.zipIdx.flatMap fun (found, k) =>
    addedBehind paramNamespace params read query (chain.take k) found

/-- The boosts that a chain adds to a query. -/
def addedBoosts (query : Query) (chain : List Instance) : List Boost :=
  added paramNamespace params (fun found => found.boosting paramNamespace params) query chain

/-- The filters that a chain adds to a query. -/
def addedFilters (query : Query) (chain : List Instance) : List Filter :=
  added paramNamespace params (fun _ settings => settings.filtering) query chain

/-- What a chain makes of an expansion, read off its definitions. -/
def reading (start : Expansion) (chain : List Instance) : Expansion where
  main := start.main.mapTerms fun _ => renamed paramNamespace params chain
  boosts := start.boosts ++ addedBoosts paramNamespace params start.main chain
  filters := start.filters ++ addedFilters paramNamespace params start.main chain

variable {paramNamespace params} {partition : Partition} {query : Query} {found : Instance}
  {front rest : List Instance} {start : Expansion}

/-! ## The first member apart -/

/-- What is met behind a longer chain is met behind its rest, on the query that its first member
leaves. -/
theorem fires_cons_iff {triggers : List String} :
    Fires paramNamespace params query (found :: front) triggers ↔
      Fires paramNamespace params
        (query.mapTerms fun _ => found.renames paramNamespace params) front triggers := by
  unfold Fires
  rw [Query.termValues_mapTerms]
  refine or_congr_right ⟨?_, ?_⟩
  · rintro ⟨value, member, met⟩
    exact ⟨_, List.mem_map_of_mem member, met⟩
  · rintro ⟨_, listed, met⟩
    obtain ⟨value, member, rfl⟩ := List.mem_map.mp listed
    exact ⟨value, member, met⟩

/-- A member that is to add clauses adds them if it fires. -/
theorem addedBehind_of_plan {α : Type} {read : Instance → ClausesSettings → List α}
    {settings : ClausesSettings} (planned : found.definition.plan? = some (.add settings)) :
    addedBehind paramNamespace params read query front found =
      if Fires paramNamespace params query front settings.triggers then read found settings
      else [] := by
  rw [addedBehind, planned]

/-- A member that is to do anything else adds nothing. -/
theorem addedBehind_of_idle {α : Type} {read : Instance → ClausesSettings → List α} {plan : Plan}
    (planned : found.definition.plan? = some plan) (idle : ∀ settings, plan ≠ .add settings) :
    addedBehind paramNamespace params read query front found = [] := by
  unfold addedBehind
  rw [planned]
  cases plan with
  | add settings => exact absurd rfl (idle settings)
  | _ => rfl

/-- A member in front only matters by what it makes of the terms. -/
theorem addedBehind_cons {α : Type} (read : Instance → ClausesSettings → List α)
    (query : Query) (first : Instance) (front : List Instance) (found : Instance) :
    addedBehind paramNamespace params read query (first :: front) found =
      addedBehind paramNamespace params read
        (query.mapTerms fun _ => first.renames paramNamespace params) front found := by
  unfold addedBehind
  split
  · simp only [fires_cons_iff]
  · rfl

/-- A chain adds what its first member adds, and then what the others add to the query that the
first has left. -/
theorem added_cons {α : Type} (read : Instance → ClausesSettings → List α) (query : Query)
    (found : Instance) (rest : List Instance) :
    added paramNamespace params read query (found :: rest) =
      addedBehind paramNamespace params read query [] found ++
        added paramNamespace params read
          (query.mapTerms fun _ => found.renames paramNamespace params) rest := by
  rw [added, List.zipIdx_cons, List.flatMap_cons, List.zipIdx_succ, List.flatMap_map]
  congr 1
  refine List.flatMap_congr fun entry _ => ?_
  exact addedBehind_cons read query found (rest.take entry.2) entry.1

/-- What one member by itself makes of an expansion. -/
theorem reading_singleton (start : Expansion) (found : Instance) :
    reading paramNamespace params start [found] =
      { main := start.main.mapTerms fun _ => found.renames paramNamespace params
        boosts := start.boosts ++ addedBehind paramNamespace params
          (fun found => found.boosting paramNamespace params) start.main [] found
        filters := start.filters ++ addedBehind paramNamespace params
          (fun _ settings => settings.filtering) start.main [] found } := by
  have alone {α : Type} (read : Instance → ClausesSettings → List α) :
      added paramNamespace params read start.main [found] =
        addedBehind paramNamespace params read start.main [] found := by
    rw [added_cons]
    exact List.append_nil _
  rw [reading, addedBoosts, addedFilters, alone, alone]
  rfl

/-- A chain is read member by member. -/
theorem reading_cons (start : Expansion) (found : Instance) (rest : List Instance) :
    reading paramNamespace params start (found :: rest) =
      reading paramNamespace params (reading paramNamespace params start [found]) rest := by
  rw [reading_singleton]
  simp only [reading, addedBoosts, addedFilters, added_cons, Query.mapTerms_mapTerms,
    List.append_assoc]
  rfl

/-- Nobody changes nothing. -/
theorem reading_nil (start : Expansion) : reading paramNamespace params start [] = start := by
  have main : (start.main.mapTerms fun _ => renamed paramNamespace params []) = start.main :=
    Query.mapTerms_id start.main
  unfold reading
  rw [main]
  exact congrArg₂ (Expansion.mk start.main) (List.append_nil _) (List.append_nil _)

/-! ## Running and reading -/

/-- What adds no clauses leaves boosts and filters alone. -/
theorem reading_of_plan {plan : Plan} (planned : found.definition.plan? = some plan)
    (idle : ∀ settings, plan ≠ .add settings) (start : Expansion) :
    reading paramNamespace params start [found] =
      { start with main := start.main.mapTerms fun _ => found.renames paramNamespace params } := by
  rw [reading_singleton, addedBehind_of_idle planned idle, addedBehind_of_idle planned idle,
    List.append_nil, List.append_nil]

/-- Clauses are added for a cause just if their rewriter fires behind nobody. -/
theorem isSome_cause?_iff (paramNamespace : String) (params : Params)
    {settings : ClausesSettings} {query : Query} :
    (ClausesSettings.cause? { settings with triggers := settings.triggers.map lower }
        query).isSome = true ↔
      Fires paramNamespace params query [] settings.triggers := by
  unfold ClausesSettings.cause? Fires
  by_cases always : settings.triggers = []
  · simp [always]
  · have some : (settings.triggers.map lower).isEmpty = false := by simpa using always
    simp only [some, Bool.false_eq_true, if_false, Option.isSome_map, List.find?_isSome, always,
      false_or, List.contains_iff_mem, List.mem_map, exists_exists_and_eq_and]
    refine exists_congr fun value => and_congr_right fun _ => ?_
    exact exists_congr fun trigger => and_congr_right fun _ => eq_comm

namespace Instance

/-- What does not replace terms leaves every value alone. -/
theorem renames_of_plan {plan : Plan} (planned : found.definition.plan? = some plan)
    (idle : ∀ table, plan ≠ .replace table) :
    found.renames paramNamespace params = fun value => value := by
  funext value
  rw [renames, planned]
  cases plan with
  | replace table => exact absurd rfl (idle table)
  | _ => rfl

/-- What a rewriter looks up in its context is looked up under its own id. -/
theorem get?_paramPath (partition : Partition) (key : String) :
    params.get? ((found.context partition paramNamespace params).paramPath key) =
      found.param? paramNamespace params key := rfl

/-- A rewriter is switched off by just one value of its parameter. -/
theorem paramBool?_eq_false_iff (partition : Partition) :
    (found.context partition paramNamespace params).paramBool? "enabled" = some false ↔
      found.param? paramNamespace params "enabled" = some (.bool false) := by
  change Params.bool? params _ = _ ↔ _
  rw [Params.bool?, get?_paramPath]
  cases found.param? paramNamespace params "enabled" with
  | none => simp
  | some value => cases value <;> simp

/-- What replaces terms looks each value up, if it is not switched off. -/
theorem renames_of_replace {table : ReplaceTable}
    (planned : found.definition.plan? = some (.replace table)) (partition : Partition) :
    found.renames paramNamespace params =
      if (found.context partition paramNamespace params).paramBool? "enabled" = some false then
        fun value => value
      else fun value => (table.target? value).getD value := by
  funext value
  rw [renames, planned]
  by_cases off : found.param? paramNamespace params "enabled" = some (.bool false)
  · rw [if_pos ((paramBool?_eq_false_iff partition).mpr off), off]
  · rw [if_neg fun same => off ((paramBool?_eq_false_iff partition).mp same)]
    simp only
    rfl

/-- The factor that a rewriter asks the request for is the one that is read off the parameters. -/
theorem weightFactor_eq (partition : Partition) :
    weightFactor ((found.context partition paramNamespace params).paramSingle? "weight_factor") =
      found.factor paramNamespace params := by
  change weightFactor ((Params.double? params _).map Binary.convert) = _
  rw [Params.double?, get?_paramPath, factor]
  cases found.param? paramNamespace params "weight_factor" with
  | none => rfl
  | some value => cases value <;> rfl

/-- A member of a chain makes of an expansion what is read off its definition. -/
theorem IsBuiltin.reads (builtin : found.IsBuiltin) (partition : Partition)
    (paramNamespace : String) (params : Params) (start : Expansion) :
    ∃ notes, found.rewriter.apply (found.context partition paramNamespace params) start =
      .ok (reading paramNamespace params start [found], notes) := by
  obtain ⟨plan, planned, made⟩ := builtin.plan
  rw [made]
  cases plan with
  | rest =>
      rw [reading_of_plan planned fun _ => Plan.noConfusion,
        renames_of_plan planned fun _ => Plan.noConfusion, Query.mapTerms_id]
      exact ⟨[], rfl⟩
  | replace table =>
      rw [reading_of_plan planned fun _ => Plan.noConfusion,
        renames_of_replace planned partition]
      simp only [Plan.rewriter, ReplaceTable.rewriter]
      by_cases off : (found.context partition paramNamespace params).paramBool? "enabled" =
          some false
      · rw [if_pos off, if_pos off, Query.mapTerms_id]
        exact ⟨[], rfl⟩
      · rw [if_neg off, if_neg off]
        exact ⟨table.notes start.main, rfl⟩
  | add settings =>
      rw [reading_singleton, renames_of_plan planned fun _ => Plan.noConfusion,
        Query.mapTerms_id, addedBehind_of_plan planned, addedBehind_of_plan planned]
      simp only [Plan.rewriter, ClausesSettings.rewriter, weightFactor_eq,
        ← isSome_cause?_iff paramNamespace params]
      cases ClausesSettings.cause? { settings with triggers := settings.triggers.map lower }
          start.main with
      | none => exact ⟨[], by simp⟩
      | some cause => exact ⟨_, rfl⟩

end Instance

/-- A chain that has been run has made of an expansion what is read off its definitions, and each of
its members has been applied once. -/
theorem applyAll_reading (partition : Partition) (paramNamespace : String) (params : Params)
    {chain : List Instance} (builtin : ∀ found ∈ chain, found.IsBuiltin) (start : Expansion) :
    ∃ applications, applications.map (·.applied) = chain ∧
      applyAll partition paramNamespace params start chain =
        (applications, .ok (reading paramNamespace params start chain)) := by
  induction chain generalizing start with
  | nil =>
      refine ⟨[], rfl, ?_⟩
      rw [reading_nil]
      rfl
  | cons found rest ih =>
      obtain ⟨notes, applied⟩ := (builtin found List.mem_cons_self).reads partition paramNamespace
        params start
      obtain ⟨applications, members, run⟩ :=
        ih (fun other later => builtin other (List.mem_cons_of_mem found later))
          (reading paramNamespace params start [found])
      refine ⟨{ applied := found, notes } :: applications, by rw [List.map_cons, members], ?_⟩
      -- The rest of the chain starts from what the first rewriter leaves.
      rw [reading_cons]
      unfold Instance.context at applied
      simp only [applyAll, applied, run]

end Reading

/-! ## Requests -/

namespace RewriteRequest

/-- The query of a request, with a threshold resolved against the optional clauses at its top. -/
def asked (request : RewriteRequest) (threshold : Option Threshold) : Query :=
  match threshold, request.query with
  | some threshold, .boolean clauses _ =>
    .boolean clauses (threshold.resolve (clauses.countP fun clause => clause.1 = .should))
  | _, query => query

/-- The query that is asked is the one with the threshold in it. -/
theorem withThreshold_eq_asked (request : RewriteRequest) (threshold : Option Threshold) :
    withThreshold threshold request.query = request.asked threshold := by
  unfold withThreshold asked
  cases threshold with
  | none => rfl
  | some threshold => cases request.query <;> rfl

/-- What is answered to a request, read off the definitions of its chain: what the chain adds,
joined to the query that was asked for. -/
def answer (request : RewriteRequest) (paramNamespace : String) (threshold : Option Threshold)
    (chain : List Instance) : Expansion :=
  let params := mountAll paramNamespace request.rewriters
  { main := (request.asked threshold).mapTerms fun _ => renamed paramNamespace params chain
    boosts := addedBoosts paramNamespace params request.query chain
    filters := addedFilters paramNamespace params request.query chain }

/-- Joining with a threshold what a chain has made is joining without one what is answered. -/
theorem compose_reading (request : RewriteRequest) (paramNamespace : String)
    (threshold : Option Threshold) (chain : List Instance) :
    (reading paramNamespace (mountAll paramNamespace request.rewriters) (.ofQuery request.query)
        chain).compose threshold =
      (request.answer paramNamespace threshold chain).compose none := by
  rw [Expansion.compose, reading, withThreshold_mapTerms]
  simp only [Expansion.ofQuery, withThreshold_eq_asked, List.nil_append]
  rfl

/-- A request on a chain of built-in rewriters runs each member once and joins what is read off. -/
theorem apply_reading (request : RewriteRequest) (paramNamespace : String)
    (threshold : Option Threshold) {chain : List Instance}
    (builtin : ∀ found ∈ chain, found.IsBuiltin) :
    ∃ applications, applications.map (·.applied) = chain ∧
      request.apply paramNamespace threshold chain =
        ((((request.answer paramNamespace threshold chain).compose none).mapError .ofBoost).map
          (.ofApplications applications), applications.flatMap (·.log request.partition)) := by
  obtain ⟨applications, members, run⟩ := applyAll_reading request.partition paramNamespace
    (mountAll paramNamespace request.rewriters) builtin (.ofQuery request.query)
  refine ⟨applications, members, ?_⟩
  simp only [apply, run, ← compose_reading]
  cases Expansion.compose _ threshold with
  | ok query => rfl
  | error e => rfl

end RewriteRequest

/-- Instances that the built-in kinds made of some definitions, one of each. -/
structure MadeOf (definitions : List Definition) (chain : List Instance) : Prop where
  definitions : chain.map (·.definition) = definitions
  made : ∀ found ∈ chain, found.id = found.definition.id ∧ found.IsBuiltin

/-- Every accepted definition has an instance. -/
theorem exists_madeOf {definitions : List Definition}
    (accepted : ∀ d ∈ definitions, Kinds.builtin.check d = .ok ()) :
    ∃ chain, MadeOf definitions chain := by
  induction definitions with
  | nil => exact ⟨[], rfl, fun _ member => nomatch member⟩
  | cons d rest ih =>
      obtain ⟨chain, same, made⟩ := ih fun other later =>
        accepted other (List.mem_cons_of_mem d later)
      obtain ⟨⟨rewriter, loads⟩, _⟩ := Kinds.loads_of_problems Kinds.builtin_sound
        (Kinds.problems_of_check (accepted d List.mem_cons_self))
      refine ⟨⟨0, d.id, d, rewriter, 0⟩ :: chain, by rw [List.map_cons, same], ?_⟩
      exact List.forall_mem_cons.mpr ⟨⟨rfl, loads⟩, made⟩

/-- **A chain is read in order.** Accepted definitions have instances, and a chain of them makes of
any expansion what is read off the definitions and the parameters of the request (`reading`): the
tree of the main query stays as it is and its values go through the tables that are not switched
off, in order; whoever fires behind the members before it adds its boosts, each weight times its own
factor, and its filters, whatever boosts and filters are there already. So the answer to a request
joins them to the query that was asked for, with the threshold resolved against the clauses of that
query. -/
theorem chains_read_in_order {definitions : List Definition}
    (accepted : ∀ d ∈ definitions, Kinds.builtin.check d = .ok ()) :
    (∃ chain, MadeOf definitions chain) ∧ ∀ chain, MadeOf definitions chain →
      (∀ partition paramNamespace params start,
        let after := reading paramNamespace params start chain
        (∃ applications, applications.map (·.applied) = chain ∧
          applyAll partition paramNamespace params start chain = (applications, .ok after)) ∧
        (after.main.mapTerms fun _ _ => "") = (start.main.mapTerms fun _ _ => "") ∧
        after.main.terms = start.main.terms.map fun term =>
          (term.1, renamed paramNamespace params chain term.2)) ∧
      ∀ (request : RewriteRequest) paramNamespace threshold,
        (request.apply paramNamespace threshold chain).1.map (·.query) =
          ((request.answer paramNamespace threshold chain).compose none).mapError .ofBoost := by
  refine ⟨exists_madeOf accepted, ?_⟩
  rintro chain ⟨-, made⟩
  have builtin : ∀ found ∈ chain, found.IsBuiltin := fun found member => (made found member).2
  refine ⟨fun partition paramNamespace params start => ⟨?_, ?_, ?_⟩, ?_⟩
  · exact applyAll_reading partition paramNamespace params builtin start
  · exact Query.mapTerms_mapTerms _ _ start.main
  · exact Query.terms_mapTerms _ start.main
  · intro request paramNamespace threshold
    obtain ⟨applications, -, run⟩ := request.apply_reading paramNamespace threshold builtin
    rw [run]
    cases Expansion.compose _ none with
    | ok query => rfl
    | error e => rfl

/-! ### A promotion that a table calls up -/

/-- A table for one misspelled word. -/
def spelling : Definition :=
  ⟨"spelling", "replace", [("rules", .object [("labtop", .text "Laptop")])], none, currentVersion⟩

/-- A table for another word. -/
def synonym : Definition :=
  ⟨"synonym", "replace", [("rules", .object [("bag", .text "case")])], none, currentVersion⟩

/-- A promotion that waits for the right spelling, and leaves out what is used. -/
def promo : Definition :=
  ⟨"promo", "clauses", promotionConfig (Binary.ofNat 2) ++
    [("filters", .list [.object [("exclude", .bool true), ("field", .text "state"),
      ("value", .text "used")]]), ("triggers", .list [.text "LAPTOP"])], none, currentVersion⟩

/-- A promotion that waits for the wrong one. -/
def late : Definition :=
  ⟨"late", "clauses", promotionConfig (Binary.ofNat 4) ++ [("triggers", .list [.text "labtop"])],
    none, currentVersion⟩

/-- All four of them. -/
def tablesAndPromotions : List Definition := [spelling, synonym, promo, late]

/-- An instance of a definition, made as it is planned. -/
def Definition.asPlanned (d : Definition) : Instance :=
  ⟨0, d.id, d, (d.plan?.getD .rest).rewriter d.id, 0⟩

/-- A search for two words of which all but one must match. It switches one table off and trebles
the weights of the first promotion. -/
def misspelledSearch : RewriteRequest where
  partition := ⟨"products", 0⟩
  rewriters := [⟨"spelling", none⟩, ⟨"synonym", some [("enabled", .bool false)]⟩,
    ⟨"promo", some [("weight_factor", .number (.whole 3))]⟩, ⟨"late", none⟩]
  query := .boolean [(.should, .term "title" "labtop"), (.should, .term "title" "bag")] 0
  threshold? := none

/-- Of the tables, the one that is not switched off is used; of the promotions, that for the right
spelling fires, with three times its weight, and its boost is not counted. -/
theorem misspelledSearch_read_in_order :
    (∀ d ∈ tablesAndPromotions, Kinds.builtin.check d = .ok ()) ∧
      MadeOf tablesAndPromotions (tablesAndPromotions.map Definition.asPlanned) ∧
        (misspelledSearch.apply "qrw" (some ⟨"-1", .simple (.count (-1))⟩)
            (tablesAndPromotions.map Definition.asPlanned)).1.map (·.query) =
          .ok (.boolean [(.must, .boolean [(.should, .term "title" "Laptop"),
              (.should, .term "title" "bag")] 1),
            (.should, .boosted (.term "brand" "acme") (Binary.ofNat 6)),
            (.mustNot, .term "state" "used")] 0) := by
  have accepted : ∀ d ∈ tablesAndPromotions, Kinds.builtin.check d = .ok () := by
    simp only [tablesAndPromotions, List.forall_mem_cons]
    exact ⟨rfl, rfl, rfl, rfl, fun _ member => nomatch member⟩
  have made : MadeOf tablesAndPromotions (tablesAndPromotions.map Definition.asPlanned) := by
    refine ⟨rfl, ?_⟩
    simp only [List.forall_mem_map, tablesAndPromotions, List.forall_mem_cons]
    exact ⟨⟨rfl, rfl⟩, ⟨rfl, rfl⟩, ⟨rfl, rfl⟩, ⟨rfl, rfl⟩, fun _ member => nomatch member⟩
  refine ⟨accepted, made, ?_⟩
  rw [((chains_read_in_order accepted).2 _ made).2 misspelledSearch "qrw"]
  rfl

end QueryRewriting

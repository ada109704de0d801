import QueryRewriting.Proofs.Kind.Soundness
import QueryRewriting.Proofs.Kind.Weights
import QueryRewriting.Service.Rewriting

/-! # What chains of built-in rewriters make of a query

A rewriter of a built-in kind never fails. It renames terms of the main query, or it adds boosts and
filters on terms behind those that are there; so what a whole chain adds is what its members add,
one after the other. -/

namespace QueryRewriting

open Kind

/-! ## One rewriter -/

namespace Instance

/-- An instance that the kinds of every node made of its definition. -/
def IsBuiltin (found : Instance) : Prop :=
  Kinds.builtin.load found.id found.definition = .ok found.rewriter

/-- The boosts that the definition of an instance has for a main query, scaled as a request asks. -/
def scaledBoosts (found : Instance) (context : RewriteContext) (main : Query) :
    List ScaledBoost :=
  if found.definition.kind = clauses.name then
    match ClausesSettings.ofConfig found.definition.config with
    | .ok settings =>
      if (settings.cause? main).isSome then
        settings.boosts.map (⟨·, weightFactor (context.paramSingle? "weight_factor")⟩)
      else []
    | .error _ => []
  else []

/-- What an instance makes of an expansion. -/
structure Extends (found : Instance) (context : RewriteContext) (before after : Expansion) :
    Prop where
  main : after.main = before.main ∨ ∃ rename, after.main = before.main.mapTerms rename
  boosts : after.boosts =
    before.boosts ++ (found.scaledBoosts context before.main).map (·.boost)
  filters : ∃ added : List TermFilter, after.filters = before.filters ++ added.map (·.filter)

variable {found : Instance} {context : RewriteContext} {before : Expansion}

/-- A rewriter that does nothing extends what there is by nothing. -/
theorem Extends.refl (silent : found.scaledBoosts context before.main = []) :
    found.Extends context before before where
  main := .inl rfl
  boosts := by rw [silent, List.map_nil, List.append_nil]
  filters := ⟨[], by rw [List.map_nil, List.append_nil]⟩

theorem scaledBoosts_of_ne (other : found.definition.kind ≠ clauses.name) (main : Query) :
    found.scaledBoosts context main = [] := by
  rw [scaledBoosts, if_neg other]

/-- The boosts of an accepted configuration have legal weights, and the request a legal factor. -/
theorem legal_of_mem_scaledBoosts {main : Query} {scaled : ScaledBoost}
    (member : scaled ∈ found.scaledBoosts context main) : scaled.Legal := by
  unfold scaledBoosts at member
  split at member
  · split at member
    · rename_i settings accepted
      split at member
      · obtain ⟨boost, listed, rfl⟩ := List.mem_map.mp member
        exact ⟨isBoostWeight_of_ofConfig accepted boost listed, isBoostWeight_weightFactor _⟩
      · cases member
    · cases member
  · cases member

/-- A rewriter is of one of the three kinds. -/
theorem load_cases (builtin : found.IsBuiltin) :
    ∃ kind ∈ Kinds.builtin.kinds, kind.name = found.definition.kind ∧
      kind.compile found.id found.definition.config = .ok found.rewriter := by
  unfold IsBuiltin Kinds.load at builtin
  cases resolved : Kinds.builtin.resolve found.definition.kind with
  | error e =>
      rw [resolved] at builtin
      cases builtin
  | ok kind =>
      rw [resolved] at builtin
      obtain ⟨member, same⟩ := Kinds.of_resolve resolved
      refine ⟨kind, member, same, ?_⟩
      simp only [bind, Except.bind] at builtin
      split at builtin
      · rename_i rewriter compiled
        cases builtin
        exact compiled
      · cases builtin

/-- A rewriter that adds clauses extends the expansion. -/
theorem extends_of_clauses (kind : clauses.name = found.definition.kind)
    (compiled : clauses.compile found.id found.definition.config = .ok found.rewriter)
    (context : RewriteContext) (before : Expansion) :
    ∃ after notes, found.rewriter.apply context before = .ok (after, notes) ∧
      found.Extends context before after := by
  simp only [clauses, Except.map] at compiled
  cases accepted : ClausesSettings.ofConfig found.definition.config with
  | error messages =>
      rw [accepted] at compiled
      cases compiled
  | ok settings =>
      rw [accepted] at compiled
      have made : settings.rewriter found.id = found.rewriter := Except.ok.inj compiled
      rw [← made, ClausesSettings.rewriter]
      simp only
      cases caused : settings.cause? before.main with
      | none =>
          refine ⟨before, [], rfl, .refl ?_⟩
          simp [scaledBoosts, accepted, caused]
      | some cause =>
          refine ⟨_, _, rfl, ⟨.inl rfl, ?_, ⟨settings.filters, rfl⟩⟩⟩
          simp [scaledBoosts, ← kind, accepted, caused, ScaledBoost.boost]

/-- A rewriter that does nothing extends the expansion. -/
theorem extends_of_noop (kind : noop.name = found.definition.kind)
    (compiled : noop.compile found.id found.definition.config = .ok found.rewriter)
    (context : RewriteContext) (before : Expansion) :
    ∃ after notes, found.rewriter.apply context before = .ok (after, notes) ∧
      found.Extends context before after := by
  simp only [noop] at compiled
  split at compiled
  · have made := Except.ok.inj compiled
    rw [← made]
    exact ⟨before, [], rfl, .refl (scaledBoosts_of_ne (by rw [← kind]; decide) _)⟩
  · cases compiled

/-- A rewriter that replaces extends the expansion. -/
theorem extends_of_replace (kind : replace.name = found.definition.kind)
    (compiled : replace.compile found.id found.definition.config = .ok found.rewriter)
    (context : RewriteContext) (before : Expansion) :
    ∃ after notes, found.rewriter.apply context before = .ok (after, notes) ∧
      found.Extends context before after := by
  have silent : found.scaledBoosts context before.main = [] :=
    scaledBoosts_of_ne (by rw [← kind]; decide) _
  simp only [replace, Except.map] at compiled
  split at compiled
  · cases compiled
  · rename_i table _
    have made : table.rewriter found.id = found.rewriter := Except.ok.inj compiled
    rw [← made, ReplaceTable.rewriter]
    simp only
    split
    · exact ⟨before, [], rfl, .refl silent⟩
    · have kept := Extends.refl silent
      exact ⟨_, _, rfl, ⟨.inr ⟨_, rfl⟩, kept.boosts, kept.filters⟩⟩

/-- A built-in rewriter never fails. -/
theorem IsBuiltin.extends (builtin : found.IsBuiltin) (context : RewriteContext)
    (before : Expansion) :
    ∃ after notes, found.rewriter.apply context before = .ok (after, notes) ∧
      found.Extends context before after := by
  obtain ⟨kind, member, named, compiled⟩ := load_cases builtin
  rcases List.mem_cons.mp member with rfl | member
  · exact extends_of_clauses named compiled context before
  rcases List.mem_cons.mp member with rfl | member
  · exact extends_of_noop named compiled context before
  · cases List.mem_singleton.mp member
    exact extends_of_replace named compiled context before

end Instance

/-! ## A chain -/

variable (partition : Partition) (paramNamespace : String) (params : Params)

/-- What a rewriter of a chain can see of the request. -/
def Instance.context (found : Instance) : RewriteContext :=
  { partition, rewriterId := found.id, paramNamespace, params }

/-- A run of rewriters, one after the other: each has been applied to what the one before it has
left, and its application keeps the notes that it took. -/
inductive Runs : Expansion → List Application → Expansion → Prop where
  | done (expansion : Expansion) : Runs expansion [] expansion
  | next {before between after : Expansion} {application : Application} {rest : List Application}
      (applied : application.applied.rewriter.apply
        (application.applied.context partition paramNamespace params) before =
          .ok (between, application.notes))
      (onward : Runs between rest after) : Runs before (application :: rest) after

/-- Rewriters that were applied without an error have been run one after the other. -/
theorem runs_of_applyAll {chain : List Instance} {before after : Expansion}
    {applications : List Application}
    (applied : applyAll partition paramNamespace params before chain =
      (applications, .ok after)) :
    Runs partition paramNamespace params before applications after := by
  induction chain generalizing before applications with
  | nil =>
      cases applied
      exact .done after
  | cons found rest ih =>
      rw [applyAll] at applied
      split at applied
      · cases applied
      · rename_i between notes own
        cases run : applyAll partition paramNamespace params between rest with
        | mk others outcome =>
            rw [run] at applied
            cases applied
            exact .next own (ih run)

/-- The boosts that the members of a chain add, one after the other. -/
def chainBoosts (expansion : Expansion) : List Instance → List ScaledBoost
  | [] => []
  | found :: rest =>
    match found.rewriter.apply (found.context partition paramNamespace params) expansion with
    | .ok (after, _) =>
      found.scaledBoosts (found.context partition paramNamespace params) expansion.main
        ++ chainBoosts after rest
    | .error _ => []

/-- Every weight and every factor in a chain is legal. -/
theorem legal_of_mem_chainBoosts {expansion : Expansion} {chain : List Instance}
    {scaled : ScaledBoost}
    (member : scaled ∈ chainBoosts partition paramNamespace params expansion chain) :
    scaled.Legal := by
  induction chain generalizing expansion with
  | nil => cases member
  | cons found rest ih =>
      unfold chainBoosts at member
      split at member
      · rcases List.mem_append.mp member with own | later
        · exact Instance.legal_of_mem_scaledBoosts own
        · exact ih later
      · cases member

/-- **A chain of built-in rewriters never fails.** It adds the boosts of its members, and whatever
each member keeps it keeps as a whole. -/
theorem applyAll_builtin {chain : List Instance} (builtin : ∀ found ∈ chain, found.IsBuiltin)
    (P : Expansion → Prop)
    (keeps : ∀ found ∈ chain, ∀ before after,
      found.Extends (found.context partition paramNamespace params) before after →
        P before → P after)
    (expansion : Expansion) (start : P expansion) :
    ∃ applications after,
      applyAll partition paramNamespace params expansion chain = (applications, .ok after) ∧
      after.boosts = expansion.boosts
        ++ (chainBoosts partition paramNamespace params expansion chain).map (·.boost) ∧
      P after := by
  induction chain generalizing expansion with
  | nil => exact ⟨[], expansion, rfl, by rw [chainBoosts, List.map_nil, List.append_nil], start⟩
  | cons found rest ih =>
      obtain ⟨next, notes, applied, extended⟩ := (builtin found List.mem_cons_self).extends
        (found.context partition paramNamespace params) expansion
      obtain ⟨applications, after, run, boosts, kept⟩ :=
        ih (fun other later => builtin other (List.mem_cons_of_mem found later))
          (fun other later => keeps other (List.mem_cons_of_mem found later))
          next (keeps found List.mem_cons_self expansion next extended start)
      refine ⟨{ applied := found, notes } :: applications, after, ?_, ?_, kept⟩
      · unfold Instance.context at applied
        simp only [applyAll, applied, run]
      · rw [boosts, extended.boosts, chainBoosts]
        simp only [applied, List.map_append, List.append_assoc]

end QueryRewriting

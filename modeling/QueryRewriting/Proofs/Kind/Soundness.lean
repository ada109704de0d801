import QueryRewriting.Kind.Builtin
import QueryRewriting.Proofs.Json.Records

/-! # What the built-in kinds accept

A kind that refuses a configuration says why, and one that accepts it has seen all of it: every kind
here reads texts, flags and numbers at fixed places, so what it accepts nests only a few levels deep
and can be stored as text.
-/

namespace QueryRewriting

open Json

namespace Kind

/-- A kind whose configurations are safe to store: it has a visible name, it never refuses a
configuration without a reason, and it accepts none that nests too deeply for a stored text. -/
structure Sound (kind : Kind) : Prop where
  named : Text.isBlank kind.name = false
  explains : ∀ id config, kind.compile id config ≠ .error []
  shallow : ∀ id config rewriter, (Json.object config).Ordered →
    kind.compile id config = .ok rewriter → (Json.object config).depth ≤ nestingLimit

/-! ## No configuration -/

/-- What the kind that does nothing accepts and refuses is as it should be. -/
theorem noop_sound : noop.Sound where
  named := by decide
  explains id config := by
    unfold noop
    cases config with
    | nil => nofun
    | cons entry rest => nofun
  shallow id config rewriter _ accepted := by
    unfold noop at accepted
    cases config with
    | nil => decide
    | cons entry rest => cases accepted

/-! ## Clauses -/

/-- The fields of a term do not nest. -/
theorem depth_of_termFields {α : Type} {extra : Json → Decoded α} {state next : TermFields α}
    {key : String} {json : Json} (scalar : ∀ json value, extra json = .ok value → json.depth = 0)
    (reads : TermFields.read extra state key json = .ok next) : json.depth = 0 := by
  have text {store : String → TermFields α}
      (reads : (do return store (← json.asText)) = Except.ok next) : json.depth = 0 := by
    cases read : json.asText with
    | error mismatch =>
        rw [read] at reads
        cases reads
    | ok text => exact depth_of_asText read
  unfold TermFields.read at reads
  split at reads
  · exact text reads
  · exact text reads
  · cases read : extra json with
    | error mismatch =>
        rw [read] at reads
        cases reads
    | ok value => exact scalar json value read

/-- A boost does not nest any further. -/
theorem depth_of_boost {json : Json} {boost : TermBoost}
    (reads : TermBoost.ofJson json = .ok boost) :
    json.depth ≤ 1 := by
  simp only [TermBoost.ofJson, bind, Except.bind] at reads
  split at reads
  · cases reads
  rename_i record taken
  split at reads
  · cases reads
  rename_i read folds
  split at reads
  · cases reads
  split at reads
  · cases reads
  refine Record.depth_of_strict taken (Record.whole_of_finish reads) folds ?_
  intro state key value next stepped
  exact Nat.le_of_eq (depth_of_termFields (fun _ _ => depth_of_asSingle) stepped)

/-- A filter does not nest any further. -/
theorem depth_of_filter {json : Json} {filter : TermFilter}
    (reads : TermFilter.ofJson json = .ok filter) : json.depth ≤ 1 := by
  simp only [TermFilter.ofJson, bind, Except.bind] at reads
  split at reads
  · cases reads
  rename_i record taken
  split at reads
  · cases reads
  rename_i read folds
  split at reads
  · cases reads
  split at reads
  · cases reads
  refine Record.depth_of_strict taken (Record.whole_of_finish reads) folds ?_
  intro state key value next stepped
  exact Nat.le_of_eq (depth_of_termFields (fun _ _ => depth_of_asBool) stepped)

/-- The settings of clauses nest as deep as lists of boosts and filters. -/
theorem depth_of_clauses {json : Json} {settings : ClausesSettings}
    (reads : ClausesSettings.ofJson json = .ok settings) : json.depth ≤ 3 := by
  simp only [ClausesSettings.ofJson, bind, Except.bind] at reads
  split at reads
  · cases reads
  rename_i record taken
  split at reads
  · cases reads
  rename_i read folds
  refine Record.depth_of_strict taken (Record.whole_of_finish reads) folds ?_
  intro state key value next stepped
  split at stepped
  · split at stepped
    · cases stepped
    rename_i triggers listed
    exact Nat.le_succ_of_le
      (depth_of_asList listed fun _ _ text => Nat.le_of_eq (depth_of_asText text))
  · split at stepped
    · cases stepped
    rename_i boosts listed
    exact depth_of_asList listed fun _ _ => depth_of_boost
  · split at stepped
    · cases stepped
    rename_i filters listed
    exact depth_of_asList listed fun _ _ => depth_of_filter

/-- What the kind that adds clauses accepts and refuses is as it should be. -/
theorem clauses_sound : clauses.Sound where
  named := by decide
  explains id config refused := by
    simp only [clauses, ClausesSettings.ofConfig] at refused
    split at refused
    · cases refused
    · rename_i settings _
      by_cases clean : settings.problems.isEmpty = true
      · rw [if_pos clean] at refused
        cases refused
      · rw [if_neg clean] at refused
        have nothing : settings.problems = [] := Except.error.inj refused
        exact clean (List.isEmpty_iff.mpr nothing)
  shallow id config rewriter _ accepted := by
    simp only [clauses, ClausesSettings.ofConfig] at accepted
    split at accepted
    · cases accepted
    · rename_i settings reads
      exact Nat.le_trans (depth_of_clauses reads) (by decide)

/-! ## Replacements -/

/-- Rules without a problem replace texts by texts. -/
theorem texts_of_readRules {ignoreCase : Bool} {seen : List String} {fields : Json.Fields}
    (clean : (readRules ignoreCase seen fields).2 = []) : ∀ entry ∈ fields, entry.2.depth = 0 := by
  induction fields generalizing seen with
  | nil => exact List.forall_mem_nil _
  | cons first rest ih =>
      obtain ⟨source, target⟩ := first
      have text : target.depth = 0 := by
        cases target with
        | list | object => cases clean
        | _ => rfl
      have others : ∃ seen, (readRules ignoreCase seen rest).2 = [] := by
        unfold readRules at clean
        split at clean
        · exact ⟨_, clean⟩
        · exact ⟨_, (List.append_eq_nil_iff.mp clean).2⟩
      obtain ⟨_, clean⟩ := others
      intro entry member
      rcases List.mem_cons.mp member with rfl | later
      · exact text
      · exact ih clean entry later

/-- A refusal of rules is never without a reason. -/
theorem replace_explains (id : String) (config : Json.Fields) :
    replace.compile id config ≠ .error [] := by
  intro refused
  simp only [replace, ReplaceTable.ofConfig] at refused
  split at refused
  · cases refused
  · rename_i settings _
    generalize readRules settings.ignoreCase [] settings.rules = result at refused
    obtain ⟨rules, problems⟩ := result
    simp only at refused
    generalize (if settings.rules.isEmpty = true then "rules must be non-empty." :: problems
      else problems) = all at refused
    cases all with
    | nil => cases refused
    | cons problem rest => cases refused

/-- A table that can be read has two fields: the flag, and the rules just as they are given. -/
theorem fields_of_replace {config : Json.Fields} {settings : ReplaceSettings}
    (ordered : (Json.object config).Ordered)
    (reads : ReplaceSettings.ofJson (.object config) = .ok settings) :
    ∀ entry ∈ config, entry.2 = .object settings.rules ∨ entry.2.depth = 0 := by
  simp only [ReplaceSettings.ofJson, bind, Except.bind] at reads
  split at reads
  · cases reads
  rename_i record taken
  cases taken
  split at reads
  · cases reads
  rename_i read folds
  split at reads
  · cases reads
  rename_i rules needed
  have settled : settings.rules = rules := by
    cases reads
    rfl
  rintro ⟨key, value⟩ member
  have declared := Record.declared_of_fold folds rfl (key, value) member
  by_cases named : key = "rules"
  · subst named
    left
    -- Once set, the rules stay what their one field holds: no field is set twice.
    have held := Record.fold_sets (fun state => ∃ rules, state.1 = some rules ∧
      value = .object rules) folds declared member ?_ ?_
    · obtain ⟨rules, last, same⟩ := held
      rw [last] at needed
      cases needed
      rw [settled]
      exact same
    · intro state next stepped
      cases value with
      | object fields =>
          cases stepped
          have inside := (ordered_object_iff.mp ordered).2 ("rules", .object fields) member
          exact ⟨_, rfl, inside.symm⟩
      | _ => cases stepped
    · intro state next other found different stepped known
      split at stepped
      · exact absurd rfl different
      · split at stepped
        · cases stepped
        · cases stepped
          exact known
  · right
    obtain ⟨state, next, stepped⟩ := Record.fold_reads folds declared member
    split at stepped
    · contradiction
    · split at stepped
      · cases stepped
      · rename_i flag reads
        exact depth_of_asBool reads

/-- Rules are accepted if there is nothing wrong with any of them. -/
theorem settings_of_replace {config : Json.Fields} {table : ReplaceTable}
    (accepted : ReplaceTable.ofConfig config = .ok table) :
    ∃ settings, ReplaceSettings.ofJson (.object config) = .ok settings ∧
      (readRules settings.ignoreCase [] settings.rules).2 = [] := by
  unfold ReplaceTable.ofConfig at accepted
  split at accepted
  · cases accepted
  · rename_i settings reads
    refine ⟨settings, reads, ?_⟩
    generalize readRules settings.ignoreCase [] settings.rules = result at accepted
    obtain ⟨rules, problems⟩ := result
    cases problems with
    | nil => rfl
    | cons problem rest => cases empty : settings.rules.isEmpty <;> simp [empty] at accepted

/-- What the kind that replaces accepts and refuses is as it should be. -/
theorem replace_sound : replace.Sound where
  named := by decide
  explains := replace_explains
  shallow id config rewriter ordered accepted := by
    cases made : ReplaceTable.ofConfig config with
    | error messages =>
        simp only [replace, made] at accepted
        cases accepted
    | ok table =>
        obtain ⟨settings, reads, clean⟩ := settings_of_replace made
        have texts := texts_of_readRules clean
        have bound : (Json.object config).depth ≤ 2 := by
          refine Nat.succ_le_succ (depthFields_le_iff.mpr fun entry member => ?_)
          rcases fields_of_replace ordered reads entry member with rules | flag
          · rw [rules]
            exact Nat.succ_le_succ (depthFields_le_iff.mpr fun rule listed =>
              Nat.le_of_eq (texts rule listed))
          · omega
        exact Nat.le_trans bound (by decide)

end Kind

/-! ## All kinds of a node -/

namespace Kinds

variable {kinds : Kinds} {definition : Definition}

/-- Kinds whose configurations are all safe to store. -/
def Sound (kinds : Kinds) : Prop := ∀ kind ∈ kinds.kinds, kind.Sound

/-- So is what the kinds of the program accept and refuse. -/
theorem builtin_sound : builtin.Sound := by
  intro kind member
  rcases List.mem_cons.mp member with rfl | member
  · exact Kind.clauses_sound
  rcases List.mem_cons.mp member with rfl | member
  · exact Kind.noop_sound
  · cases List.mem_singleton.mp member
    exact Kind.replace_sound

/-- A kind that is found has the name. -/
theorem of_resolve {name : String} {kind : Kind} (found : kinds.resolve name = .ok kind) :
    kind ∈ kinds.kinds ∧ kind.name = name := by
  unfold resolve at found
  split at found
  · rename_i other first
    cases found
    have same := List.find?_some first
    exact ⟨List.mem_of_find?_eq_some first, eq_of_beq same⟩
  · cases found

/-- **A definition without problems can be loaded**, and its document can be read back: its kind has
a visible name and its configuration is shallow. -/
theorem loads_of_problems (sound : kinds.Sound) (clean : kinds.problems definition = .ok []) :
    (∃ rewriter, kinds.load definition.id definition = .ok rewriter) ∧
      Text.isBlank definition.kind = false ∧
      ((Json.object definition.config).Ordered →
        (Json.object definition.config).depth ≤ nestingLimit) := by
  unfold problems at clean
  cases found : kinds.resolve definition.kind with
  | error e =>
      rw [found] at clean
      cases clean
  | ok kind =>
      rw [found] at clean
      obtain ⟨member, same⟩ := of_resolve found
      obtain ⟨named, explains, shallow⟩ := sound kind member
      cases compiled : kind.compile definition.id definition.config with
      | error messages =>
          simp only [bind, Except.bind, compiled] at clean
          have nothing := (List.append_eq_nil_iff.mp (Except.ok.inj clean)).1
          rw [nothing] at compiled
          exact absurd compiled (explains _ _)
      | ok rewriter =>
          refine ⟨⟨rewriter, ?_⟩, same ▸ named, fun ordered => shallow _ _ _ ordered compiled⟩
          simp only [load, found, bind, Except.bind, compiled]

end Kinds

end QueryRewriting

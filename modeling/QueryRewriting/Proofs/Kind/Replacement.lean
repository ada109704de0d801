import Mathlib.Data.List.Basic
import QueryRewriting.Proofs.Kind.Soundness
import QueryRewriting.Proofs.Query.Renaming

/-! # Replacing terms by a table

A table that is accepted replaces terms all at once: every value is looked up as it stands in the
query that was asked for, and what it is replaced by is not looked up again.

The main statement, `Kind.replaces_at_once`, says of all configurations which of them are accepted,
and of an accepted one what it makes of every query: what stands under each term, and that nothing
else of the query changes. It also says that one pass over the query, which replaces a term and
takes a note of it before it goes on to the next one, comes to the same. -/

namespace QueryRewriting

open Json Text

/-! ## One pass over a query -/

namespace Query

section Pass

variable {σ : Type} (visit : String → String → σ → String × σ)

mutual

/-- Visits every term, depth first and in the order of the clauses. A visit gives the term its new
value, and hands on what it has seen. -/
def visitTerms : Query → σ → Query × σ
  | .matchAll, seen => (.matchAll, seen)
  | .term field value, seen =>
    let (value, seen) := visit field value seen
    (.term field value, seen)
  | .boosted query boost, seen =>
    let (query, seen) := visitTerms query seen
    (.boosted query boost, seen)
  | .boolean clauses minimum, seen =>
    let (clauses, seen) := visitClauseTerms clauses seen
    (.boolean clauses minimum, seen)

/-- Visits the terms of some clauses, one after the other. -/
def visitClauseTerms : List Clause → σ → List Clause × σ
  | [], seen => ([], seen)
  | (occur, query) :: rest, seen =>
    let (query, seen) := visitTerms query seen
    let (rest, seen) := visitClauseTerms rest seen
    ((occur, query) :: rest, seen)

end

end Pass

variable {σ : Type} (rename : String → String → String) (see : σ → String × String → σ)

mutual

/-- If new values do not depend on what was seen, a pass renames the terms and sees the old ones. -/
theorem visitTerms_eq (query : Query) (seen : σ) :
    query.visitTerms (fun field value seen => (rename field value, see seen (field, value))) seen =
      (query.mapTerms rename, query.terms.foldl see seen) := by
  match query with
  | .matchAll => rfl
  | .term field value => rfl
  | .boosted inner boost => rw [visitTerms, visitTerms_eq inner, mapTerms, terms]
  | .boolean clauses minimum => rw [visitTerms, visitClauseTerms_eq clauses, mapTerms, terms]

/-- Visiting the terms of clauses changes each by itself, and sees them in their order. -/
theorem visitClauseTerms_eq (clauses : List Clause) (seen : σ) :
    visitClauseTerms (fun field value seen => (rename field value, see seen (field, value))) clauses
        seen =
      (mapClauseTerms rename clauses, (clauseTerms clauses).foldl see seen) := by
  match clauses with
  | [] => rfl
  | (occur, query) :: rest =>
      rw [visitClauseTerms, visitTerms_eq query]
      simp only
      rw [visitClauseTerms_eq rest, mapClauseTerms, clauseTerms, List.foldl_append]

end

end Query

/-! ## Configurations -/

/-- A truth value is read as itself. -/
theorem Json.asBool_eq_ok_iff {json : Json} {flag : Bool} :
    json.asBool = .ok flag ↔ json = .bool flag := by
  cases json <;> simp [asBool]

/-- An object is read as its fields in order. -/
theorem Json.asFields_eq_ok_iff {json : Json} {read : Json.Fields} :
    json.asFields = .ok read ↔
      ∃ written, json = .object written ∧ canonicalFields [] written = read := by
  cases json <;> simp [asFields]

/-- Fields under two keys are listed with the lower one in front. -/
theorem Json.Fields.Increasing.eq_of_keys {fields : Json.Fields} {low high : String}
    (increasing : fields.Increasing) (lower : low < high)
    (keys : ∀ entry ∈ fields, entry.1 = low ∨ entry.1 = high) :
    fields = (fields.get? low).toList.map (low, ·) ++ (fields.get? high).toList.map (high, ·) := by
  have miss : (high == low) = false := beq_false_of_ne (String.ne_of_lt lower).symm
  have missed : (low == high) = false := beq_false_of_ne (String.ne_of_lt lower)
  have later {key : String} (above : high < key) (named : key = low ∨ key = high) : False := by
    rcases named with rfl | rfl
    · exact String.lt_asymm lower above
    · exact String.lt_irrefl key above
  match fields with
  | [] => rfl
  | [(key, value)] =>
      have named : key = low ∨ key = high := keys (key, value) List.mem_cons_self
      rcases named with rfl | rfl
      · simp [Json.Fields.get?, List.lookup_cons, miss]
      · simp [Json.Fields.get?, List.lookup_cons, missed]
  | (key, value) :: (next, other) :: rest =>
      obtain ⟨above, increasing⟩ := List.pairwise_cons.mp increasing
      obtain ⟨highest, _⟩ := List.pairwise_cons.mp increasing
      obtain ⟨first, named, keys⟩ := (List.forall_mem_cons.trans
        (and_congr_right fun _ => List.forall_mem_cons)).mp keys
      have before : key < next := above (next, other) List.mem_cons_self
      have front : key = low := by
        rcases first with same | rfl
        · exact same
        · exact (later before named).elim
      have second : next = high := by
        rcases named with same | same
        · have again : next = low := same
          rw [front, again] at before
          exact absurd before (String.lt_irrefl low)
        · exact same
      have nothing : rest = [] := List.eq_nil_iff_forall_not_mem.mpr fun entry member =>
        later (second ▸ highest entry member) (keys entry member)
      subst front second nothing
      simp [Json.Fields.get?, List.lookup_cons, miss]

namespace Kind

/-- The key of a rule in the table. -/
def keyed (ignoreCase : Bool) (rule : String × String) : String × String :=
  (sourceKey ignoreCase rule.1, rule.2)

/-- A rule as it is written. -/
def ruleField (rule : String × String) : String × Json := (rule.1, .text rule.2)

/-- A configuration writes some rules: it has no other keys, each target is a text, and the flag is
one. -/
structure Writes (config : Json.Fields) (rules : List (String × String)) (ignoreCase : Bool) :
    Prop where
  keys : ∀ entry ∈ config, entry.1 = "rules" ∨ entry.1 = "ignore_case"
  rules : config.get? "rules" = some (.object (rules.map ruleField))
  flag : (config.get? "ignore_case").getD (.bool false) = .bool ignoreCase

/-- Rules make a table: nothing is blank, and no two sources are the same as they are compared. -/
structure Usable (ignoreCase : Bool) (rules : List (String × String)) : Prop where
  sources : ∀ rule ∈ rules, isBlank (sourceKey ignoreCase rule.1) = false
  targets : ∀ rule ∈ rules, isBlank rule.2 = false
  distinct : (rules.map fun rule => sourceKey ignoreCase rule.1).Nodup

variable {config fields : Json.Fields} {rules entries : List (String × String)}
  {rule : String × String} {ignoreCase : Bool} {seen : List String} {source : String}
  {target : Json}

/-- Settings that were read are the flag, if there is one, and the rules. -/
theorem ReplaceSettings.ofJson_of_two (flag rules : Option Json) :
    ReplaceSettings.ofJson (.object
        (flag.toList.map ("ignore_case", ·) ++ rules.toList.map ("rules", ·))) = (do
      let ignoreCase ← flag.elim (.ok false) asBool
      let rules ← rules.elim (.error (.missingField "rules")) asFields
      return ⟨rules, ignoreCase⟩) := by
  cases flag with
  | none =>
      cases rules with
      | none => rfl
      | some rules => cases rules <;> rfl
  | some flag =>
      cases rules with
      | none => cases flag <;> rfl
      | some rules => cases flag <;> cases rules <;> rfl

/-- **Settings are read off a configuration that has the two keys at most.** -/
theorem ReplaceSettings.ofJson_eq_ok_iff {settings : ReplaceSettings}
    (ordered : (Json.object config).Ordered) :
    ReplaceSettings.ofJson (.object config) = .ok settings ↔
      (∀ entry ∈ config, entry.1 = "rules" ∨ entry.1 = "ignore_case") ∧
        config.get? "rules" = some (.object settings.rules) ∧
        (config.get? "ignore_case").getD (.bool false) = .bool settings.ignoreCase := by
  by_cases keys : ∀ entry ∈ config, entry.1 = "rules" ∨ entry.1 = "ignore_case"
  · rw [and_iff_right keys]
    -- With its keys in order, the object is its flag, if any, in front of its rules, if any.
    have shape := (ordered_object_iff.mp ordered).1.eq_of_keys (by decide : "ignore_case" < "rules")
      fun entry member => (keys entry member).symm
    have inside (fields : Json.Fields) (found : config.get? "rules" = some (.object fields)) :
        canonicalFields [] fields = fields := Json.object.inj (ordered.of_get? found)
    generalize config.get? "rules" = rules at shape inside ⊢
    generalize config.get? "ignore_case" = flag at shape ⊢
    rw [shape, ReplaceSettings.ofJson_of_two, bind_eq_ok_iff]
    simp only [bind_eq_ok_iff]
    constructor
    · rintro ⟨ignoreCase, flagged, read, table, same⟩
      cases same
      cases rules with
      | none => cases table
      | some value =>
          obtain ⟨fields, rfl, rfl⟩ := asFields_eq_ok_iff.mp table
          refine ⟨congrArg some (congrArg Json.object (inside fields rfl).symm), ?_⟩
          cases flag with
          | none => exact congrArg Json.bool (Except.ok.inj flagged)
          | some value => exact asBool_eq_ok_iff.mp flagged
    · rintro ⟨rfl, flagged⟩
      refine ⟨settings.ignoreCase, ?_, settings.rules, ?_, rfl⟩
      · cases flag with
        | none => exact congrArg Except.ok (Json.bool.inj flagged)
        | some value => exact asBool_eq_ok_iff.mpr flagged
      · exact asFields_eq_ok_iff.mpr ⟨_, rfl, inside _ rfl⟩
  · refine iff_of_false (fun reads => keys fun entry member => ?_) fun reads => keys reads.1
    simp only [ReplaceSettings.ofJson, asRecord, bind, Except.bind] at reads
    split at reads
    · cases reads
    rename_i folds
    have declared := Record.declared_of_fold folds rfl entry member
    simpa using declared

/-! ## Rules -/

/-- There is nothing wrong with a rule if its target is a text, neither side is blank, and its
source is new. -/
theorem ruleProblem?_eq_none_iff :
    ruleProblem? ignoreCase seen source target = none ↔
      ∃ text, target = .text text ∧ isBlank (sourceKey ignoreCase source) = false ∧
        isBlank text = false ∧ sourceKey ignoreCase source ∉ seen := by
  cases target with
  | text text =>
      simp only [ruleProblem?, Json.text.injEq, exists_eq_left']
      split_ifs <;> simp_all
  | _ => simp [ruleProblem?]

/-- A rule with which nothing is wrong is taken into the table. -/
theorem readRules_cons_of_none {text : String} {rest : Json.Fields}
    (sound : ruleProblem? ignoreCase seen source (.text text) = none) :
    readRules ignoreCase seen ((source, .text text) :: rest) =
      ((sourceKey ignoreCase source, text) ::
          (readRules ignoreCase (sourceKey ignoreCase source :: seen) rest).1,
        (readRules ignoreCase (sourceKey ignoreCase source :: seen) rest).2) := by
  simp only [readRules, sound]

/-- A rule with which something is wrong is passed over, and its fault noted. -/
theorem readRules_cons_of_some {message : String} {rest : Json.Fields}
    (faulty : ruleProblem? ignoreCase seen source target = some message) :
    readRules ignoreCase seen ((source, target) :: rest) =
      ((readRules ignoreCase seen rest).1, message :: (readRules ignoreCase seen rest).2) := by
  simp only [readRules, faulty]
  rfl

/-- The first rule apart. -/
theorem usable_cons_iff :
    ((∀ other ∈ rule :: rules, sourceKey ignoreCase other.1 ∉ seen) ∧
        Usable ignoreCase (rule :: rules)) ↔
      (isBlank (sourceKey ignoreCase rule.1) = false ∧ isBlank rule.2 = false ∧
        sourceKey ignoreCase rule.1 ∉ seen) ∧
      (∀ other ∈ rules, sourceKey ignoreCase other.1 ∉ sourceKey ignoreCase rule.1 :: seen) ∧
        Usable ignoreCase rules := by
  constructor
  · rintro ⟨fresh, sources, targets, distinct⟩
    rw [List.forall_mem_cons] at fresh sources targets
    rw [List.map_cons, List.nodup_cons] at distinct
    refine ⟨⟨sources.1, targets.1, fresh.1⟩, fun other member => ?_, sources.2, targets.2,
      distinct.2⟩
    rw [List.mem_cons, not_or]
    exact ⟨fun same => distinct.1 (same ▸ List.mem_map_of_mem member), fresh.2 other member⟩
  · rintro ⟨⟨source, target, fresh⟩, others, sources, targets, distinct⟩
    have apart (other : String × String) (member : other ∈ rules) :=
      not_or.mp (mt List.mem_cons.mpr (others other member))
    refine ⟨List.forall_mem_cons.mpr ⟨fresh, fun other member => (apart other member).2⟩,
      List.forall_mem_cons.mpr ⟨source, sources⟩, List.forall_mem_cons.mpr ⟨target, targets⟩, ?_⟩
    rw [List.map_cons, List.nodup_cons]
    refine ⟨fun repeated => ?_, distinct⟩
    obtain ⟨other, member, same⟩ := List.mem_map.mp repeated
    exact (apart other member).1 same

/-- **Rules are read without a problem exactly if they make a table.** -/
theorem readRules_eq_iff :
    readRules ignoreCase seen fields = (entries, []) ↔
      ∃ rules, fields = rules.map ruleField ∧ entries = rules.map (keyed ignoreCase) ∧
        (∀ rule ∈ rules, sourceKey ignoreCase rule.1 ∉ seen) ∧ Usable ignoreCase rules := by
  induction fields generalizing seen entries with
  | nil =>
      constructor
      · intro reads
        cases reads
        exact ⟨[], rfl, rfl, List.forall_mem_nil _, List.forall_mem_nil _, List.forall_mem_nil _,
          List.nodup_nil⟩
      · rintro ⟨rules, none, rfl, -⟩
        rw [List.map_eq_nil_iff.mp none.symm]
        rfl
  | cons field rest ih =>
      obtain ⟨source, target⟩ := field
      cases problem : ruleProblem? ignoreCase seen source target with
      | none =>
          obtain ⟨text, rfl, fits⟩ := ruleProblem?_eq_none_iff.mp problem
          rw [readRules_cons_of_none problem]
          constructor
          · intro reads
            obtain ⟨rfl, clean⟩ := Prod.ext_iff.mp reads
            obtain ⟨rules, rfl, others, usable⟩ := ih.mp (Prod.ext rfl clean)
            obtain ⟨unseen, usable⟩ :=
              (@usable_cons_iff rules (source, text) _ _).mpr ⟨fits, usable⟩
            exact ⟨(source, text) :: rules, rfl, congrArg _ others, unseen, usable⟩
          · rintro ⟨_ | ⟨⟨_, _⟩, rules⟩, same, rfl, usable⟩
            · cases same
            · cases same
              obtain ⟨-, usable⟩ := usable_cons_iff.mp usable
              rw [ih.mpr ⟨rules, rfl, rfl, usable⟩]
              rfl
      | some message =>
          rw [readRules_cons_of_some problem]
          constructor
          · intro reads
            cases (Prod.ext_iff.mp reads).2
          · rintro ⟨_ | ⟨⟨_, _⟩, rules⟩, same, -, usable⟩
            · cases same
            · cases same
              obtain ⟨fits, -⟩ := usable_cons_iff.mp usable
              rw [ruleProblem?_eq_none_iff.mpr ⟨_, rfl, fits⟩] at problem
              cases problem

/-- **A configuration is accepted exactly if it writes rules that make a table.** -/
theorem ofConfig_eq_ok_iff {table : ReplaceTable} (ordered : (Json.object config).Ordered) :
    ReplaceTable.ofConfig config = .ok table ↔
      ∃ rules, Writes config rules table.ignoreCase ∧ rules ≠ [] ∧ Usable table.ignoreCase rules ∧
        table.rules = rules.map (keyed table.ignoreCase) := by
  constructor
  · intro accepted
    obtain ⟨settings, reads, clean⟩ := settings_of_replace accepted
    obtain ⟨keys, found, flag⟩ := (ReplaceSettings.ofJson_eq_ok_iff ordered).mp reads
    obtain ⟨rules, written, entries, -, usable⟩ := readRules_eq_iff.mp (Prod.ext rfl clean)
    rw [ReplaceTable.ofConfig, reads] at accepted
    simp only [clean, entries] at accepted
    by_cases empty : settings.rules.isEmpty = true
    · rw [if_pos empty] at accepted
      cases accepted
    · rw [if_neg empty] at accepted
      cases accepted
      refine ⟨rules, ⟨keys, written ▸ found, flag⟩, ?_, usable, rfl⟩
      rintro rfl
      exact empty (by rw [written]; rfl)
  · rintro ⟨rules, ⟨keys, written, flag⟩, nonempty, usable, same⟩
    have reads : ReplaceSettings.ofJson (.object config) =
        .ok ⟨rules.map ruleField, table.ignoreCase⟩ :=
      (ReplaceSettings.ofJson_eq_ok_iff ordered).mpr ⟨keys, written, flag⟩
    have entries := readRules_eq_iff.mpr
      ⟨rules, rfl, same, fun _ _ => List.not_mem_nil, usable⟩
    have some : ¬ (rules.map ruleField).isEmpty = true := by
      rwa [List.isEmpty_iff, List.map_eq_nil_iff]
    rw [ReplaceTable.ofConfig, reads]
    simp only [entries, if_neg some]
    rfl

/-- A config is accepted if its table is. -/
theorem compile_eq_ok_iff {id : String} {rewriter : Rewriter} :
    replace.compile id config = .ok rewriter ↔
      ∃ table, ReplaceTable.ofConfig config = .ok table ∧ rewriter = table.rewriter id := by
  change (ReplaceTable.ofConfig config).map (·.rewriter id) = .ok rewriter ↔ _
  cases ReplaceTable.ofConfig config with
  | error messages => simp [Except.map]
  | ok table => simp [Except.map, eq_comm]

/-- A configuration writes the same rules however it is read. -/
theorem Writes.unique {others : List (String × String)} {flag : Bool}
    (writes : Writes config rules ignoreCase) (same : Writes config others flag) :
    rules = others ∧ ignoreCase = flag := by
  have apart (a b : String × String) (equal : ruleField a = ruleField b) : a = b :=
    Prod.ext (Prod.ext_iff.mp equal).1 (Json.text.inj (Prod.ext_iff.mp equal).2)
  have fields := Json.object.inj (Option.some.inj (writes.rules.symm.trans same.rules))
  exact ⟨(List.map_inj_right apart).mp fields, Json.bool.inj (writes.flag.symm.trans same.flag)⟩

/-! ## Values -/

/-- In a table a key leads to the target of its only rule. -/
theorem lookup_keyed_eq_some_iff {key text : String}
    (distinct : (rules.map fun rule => sourceKey ignoreCase rule.1).Nodup) :
    (rules.map (keyed ignoreCase)).lookup key = some text ↔
      ∃ rule ∈ rules, sourceKey ignoreCase rule.1 = key ∧ rule.2 = text := by
  induction rules with
  | nil => exact iff_of_false nofun fun ⟨_, member, _⟩ => List.not_mem_nil member
  | cons rule rest ih =>
      rw [List.map_cons, List.nodup_cons] at distinct
      obtain ⟨absent, distinct⟩ := distinct
      rw [List.map_cons, keyed, List.lookup_cons]
      simp only [List.mem_cons, exists_eq_or_imp]
      by_cases own : sourceKey ignoreCase rule.1 = key
      · have others : ¬ ∃ other ∈ rest, sourceKey ignoreCase other.1 = key ∧ other.2 = text := by
          rintro ⟨other, member, same, -⟩
          exact absent (own.trans same.symm ▸ List.mem_map_of_mem member)
        rw [or_iff_left others, and_iff_right own, beq_iff_eq.mpr own.symm]
        exact Option.some_inj
      · have miss : (key == sourceKey ignoreCase rule.1) = false := beq_false_of_ne (Ne.symm own)
        rw [miss, or_iff_right fun front => own front.1]
        exact ih distinct

/-- What a visit does: a term for whose value there is a target gets it, and a note is taken. -/
def replaceTerm (target? : String → Option String) (field value : String) (notes : List String) :
    String × List String :=
  match target? value with
  | some target => (target, notes ++ [s!"{field}:{value} => {target}"])
  | none => (value, notes)

/-- A query after its terms were replaced, and the notes about it. -/
structure Substitutes (target? : String → Option String) (before after : Query)
    (notes : List String) : Prop where
  terms : after.terms =
    before.terms.map fun term => (term.1, (target? term.2).getD term.2)
  shape : (after.mapTerms fun _ _ => "") = before.mapTerms fun _ _ => ""
  noted : notes = before.terms.filterMap fun term =>
    (target? term.2).map fun target => s!"{term.1}:{term.2} => {target}"
  pass : before.visitTerms (replaceTerm target?) [] = (after, notes)

/-- **A table replaces all terms at once**, as one pass over the query does. -/
theorem substitutes_apply (table : ReplaceTable) (query : Query) :
    Substitutes table.target? query (table.apply query) (table.notes query) where
  terms := Query.terms_mapTerms _ query
  shape := Query.mapTerms_mapTerms _ _ query
  noted := rfl
  pass := by
    have visit : replaceTerm table.target? = fun field value notes =>
        ((table.target? value).getD value, notes ++ ((table.target? value).map fun target =>
          s!"{field}:{value} => {target}").toList) := by
      funext field value notes
      rw [replaceTerm]
      cases table.target? value with
      | none => exact congrArg _ (List.append_nil notes).symm
      | some target => rfl
    rw [visit]
    refine (Query.visitTerms_eq (fun _ value => (table.target? value).getD value)
      (fun notes term => notes ++ ((table.target? term.2).map fun target =>
        s!"{term.1}:{term.2} => {target}").toList) query []).trans ?_
    rw [List.foldl_append_eq_append, List.nil_append, ← List.flatMap_def,
      ← List.filterMap_eq_flatMap_toList]
    rfl

/-- **A table replaces terms at once.** A configuration is accepted exactly if its only keys are the
rules and perhaps the flag, there are rules, each has a text for its target, no source and no target
is blank, and no two sources are the same as they are compared, which with the flag set is in lower
case. Then for each value there is at most one target, that of the rule whose source is the same as
the value, and each rule's own source leads to its own target. Unless the request switches the
rewriter off, it replaces each value of the query for which there is a target, wherever it stands,
and nothing else of the query or of the expansion changes. Targets are not looked up again: the new
values are read off the old ones. One note is taken for each term that is replaced, in the order in
which the terms of the query are visited, and a single pass that replaces and notes as it goes comes
to the same. -/
theorem replaces_at_once (id : String) (config : Json.Fields)
    (ordered : (Json.object config).Ordered) :
    ((∃ rewriter, replace.compile id config = .ok rewriter) ↔
      ∃ rules ignoreCase, Writes config rules ignoreCase ∧ rules ≠ [] ∧ Usable ignoreCase rules) ∧
    ∀ rewriter rules ignoreCase, replace.compile id config = .ok rewriter →
      Writes config rules ignoreCase →
      ∃ target? : String → Option String,
        (∀ value target, target? value = some target ↔
          ∃ rule ∈ rules, sourceKey ignoreCase rule.1 = sourceKey ignoreCase value ∧
            rule.2 = target) ∧
        (∀ rule ∈ rules, target? rule.1 = some rule.2) ∧
        ∀ context start, context.paramBool? "enabled" ≠ some false →
          ∃ after notes,
            rewriter.apply context start = .ok ({ start with main := after }, notes) ∧
              Substitutes target? start.main after notes := by
  simp only [compile_eq_ok_iff]
  refine ⟨⟨?_, ?_⟩, ?_⟩
  · rintro ⟨_, table, made, -⟩
    obtain ⟨rules, writes, nonempty, usable, -⟩ := (ofConfig_eq_ok_iff ordered).mp made
    exact ⟨rules, table.ignoreCase, writes, nonempty, usable⟩
  · rintro ⟨rules, ignoreCase, writes, nonempty, usable⟩
    exact ⟨_, ⟨rules.map (keyed ignoreCase), ignoreCase⟩,
      (ofConfig_eq_ok_iff ordered).mpr ⟨rules, writes, nonempty, usable, rfl⟩, rfl⟩
  · rintro _ rules ignoreCase ⟨table, made, rfl⟩ writes
    obtain ⟨others, written, -, usable, entries⟩ := (ofConfig_eq_ok_iff ordered).mp made
    obtain ⟨rfl, rfl⟩ := writes.unique written
    have leads (value target : String) : table.target? value = some target ↔
        ∃ rule ∈ rules, sourceKey table.ignoreCase rule.1 = sourceKey table.ignoreCase value ∧
          rule.2 = target := by
      rw [ReplaceTable.target?, entries]
      exact lookup_keyed_eq_some_iff usable.distinct
    refine ⟨table.target?, leads, fun rule member => (leads _ _).mpr ⟨rule, member, rfl, rfl⟩, ?_⟩
    intro context start on
    exact ⟨_, _, if_neg on, substitutes_apply table start.main⟩

/-! ### Two rules of which one leads to the other -/

/-- Two rules of which the first ends where the second begins. -/
def chainedRules : List (String × String) := [("A", "b"), ("B", "c")]

/-- The config of these rules, for letters of either case. -/
def chainedConfig : Json.Fields :=
  [("ignore_case", .bool true), ("rules", .object (chainedRules.map ruleField))]

/-- A query for both sources, one of them boosted. -/
def chainedQuery : Query :=
  .boolean [(.must, .term "f" "a"), (.should, .boosted (.term "f" "B") (Decimal.Binary.ofNat 2))] 1

/-- What the first rule puts in is not replaced again by the second. -/
theorem chainedConfig_replaces_at_once :
    ∃ rewriter after notes, replace.compile "r" chainedConfig = .ok rewriter ∧
      rewriter.apply ⟨⟨"products", 0⟩, "r", "qrw", .empty⟩ (.ofQuery chainedQuery) =
        .ok (.ofQuery after, notes) ∧
      after.terms = [("f", "b"), ("f", "c")] ∧ notes = ["f:a => b", "f:B => c"] := by
  have writes : Writes chainedConfig chainedRules true := ⟨by decide, rfl, rfl⟩
  have usable : Usable true chainedRules :=
    ⟨by decide +kernel, by decide +kernel, by decide +kernel⟩
  obtain ⟨accepts, replaces⟩ := replaces_at_once "r" chainedConfig rfl
  obtain ⟨rewriter, made⟩ := accepts.mpr ⟨chainedRules, true, writes, by decide, usable⟩
  obtain ⟨target?, leads, own, does⟩ := replaces rewriter chainedRules true made writes
  obtain ⟨after, notes, ran, substitutes⟩ :=
    does ⟨⟨"products", 0⟩, "r", "qrw", .empty⟩ (.ofQuery chainedQuery) (by decide +kernel)
  have first : target? "a" = some "b" :=
    (leads "a" "b").mpr ⟨("A", "b"), List.mem_cons_self, by decide +kernel, rfl⟩
  have second : target? "B" = some "c" :=
    own ("B", "c") (List.mem_cons_of_mem _ List.mem_cons_self)
  have terms : (Expansion.ofQuery chainedQuery).main.terms = [("f", "a"), ("f", "B")] := rfl
  refine ⟨rewriter, after, notes, made, ran, ?_, ?_⟩
  · rw [substitutes.terms, terms]
    simp only [List.map_cons, List.map_nil, first, second, Option.getD_some]
  · rw [substitutes.noted, terms]
    simp only [List.filterMap_cons, List.filterMap_nil, first, second, Option.map_some]
    rfl

end Kind

end QueryRewriting

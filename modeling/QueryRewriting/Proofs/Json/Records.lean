import QueryRewriting.Json.Decode
import QueryRewriting.Proofs.Json.RoundTrip

/-! # What a record that was read is made of

A strict record that was read has no fields but declared ones, each read once. So it nests no deeper
than what its fields may hold.
-/

namespace QueryRewriting.Json

/-! ## Depth -/

/-- Items nest as deep as the deepest of them. -/
theorem depthItems_le_iff {items : List Json} {limit : Nat} :
    depthItems items ≤ limit ↔ ∀ item ∈ items, item.depth ≤ limit := by
  induction items with
  | nil => simp [depthItems]
  | cons item rest ih => rw [depthItems, Nat.max_le, ih, List.forall_mem_cons]

/-- Fields nest as deep as the deepest of their values. -/
theorem depthFields_le_iff {fields : Fields} {limit : Nat} :
    depthFields fields ≤ limit ↔ ∀ entry ∈ fields, entry.2.depth ≤ limit := by
  induction fields with
  | nil => simp [depthFields]
  | cons entry rest ih =>
      obtain ⟨key, value⟩ := entry
      rw [depthFields, Nat.max_le, ih, List.forall_mem_cons]

/-! ## Values without structure -/

variable {json : Json}

/-- A text does not nest. -/
theorem depth_of_asText {text : String} (reads : json.asText = .ok text) : json.depth = 0 := by
  cases json <;> first | rfl | cases reads

/-- A truth value does not nest. -/
theorem depth_of_asBool {flag : Bool} (reads : json.asBool = .ok flag) : json.depth = 0 := by
  cases json <;> first | rfl | cases reads

/-- A number does not nest. -/
theorem depth_of_asSingle {x : Decimal.Single} (reads : json.asSingle = .ok x) :
    json.depth = 0 := by
  cases json <;> first | rfl | cases reads

/-! ## Lists -/

/-- What is read in two steps is read if both succeed. -/
theorem bind_eq_ok_iff {α β : Type} {first : Decoded α} {next : α → Decoded β} {read : β} :
    (first >>= next) = .ok read ↔ ∃ value, first = .ok value ∧ next value = .ok read := by
  cases first <;> simp [bind, Except.bind]

/-- When some items were read, each of them was. -/
theorem mapM_reads {α : Type} {item : Json → Decoded α} {items : List Json} {read : List α}
    (reads : items.mapM item = .ok read) : ∀ json ∈ items, ∃ value, item json = .ok value := by
  induction items generalizing read with
  | nil => exact fun _ member => nomatch member
  | cons first rest ih =>
      rw [List.mapM_cons] at reads
      simp only [bind, Except.bind] at reads
      split at reads
      · cases reads
      rename_i value front
      split at reads
      · cases reads
      rename_i others later
      intro json member
      rcases List.mem_cons.mp member with rfl | inside
      · exact ⟨value, front⟩
      · exact ih later json inside

/-- What was read off some items was read off one of them each. -/
theorem of_mem_mapM {α : Type} {item : Json → Decoded α} {items : List Json} {read : List α}
    (reads : items.mapM item = .ok read) :
    ∀ value ∈ read, ∃ json ∈ items, item json = .ok value := by
  induction items generalizing read with
  | nil =>
      cases reads
      exact fun _ member => nomatch member
  | cons json rest ih =>
      rw [List.mapM_cons, bind_eq_ok_iff] at reads
      obtain ⟨value, first, reads⟩ := reads
      obtain ⟨values, later, same⟩ := bind_eq_ok_iff.mp reads
      cases same
      refine List.forall_mem_cons.mpr ⟨⟨json, List.mem_cons_self, first⟩, ?_⟩
      intro other member
      obtain ⟨source, inside, read⟩ := ih later other member
      exact ⟨source, List.mem_cons_of_mem json inside, read⟩

/-- A list nests one deeper than its items. -/
theorem depth_of_asList {α : Type} {item : Json → Decoded α} {read : List α} {limit : Nat}
    (reads : json.asList item = .ok read)
    (shallow : ∀ json value, item json = .ok value → json.depth ≤ limit) :
    json.depth ≤ limit + 1 := by
  cases json with
  | list items =>
      refine Nat.succ_le_succ (depthItems_le_iff.mpr fun json member => ?_)
      obtain ⟨value, read⟩ := mapM_reads reads json member
      exact shallow json value read
  | _ => cases reads

/-! ## Records -/

namespace Record

variable {σ : Type} {record : Record} {step : σ → String → Json → Decoded σ} {start final : σ}
  {key : String} {value : Json} {Q : σ → Prop}

/-- A field that was read is not read again. -/
theorem go_keeps {seen : List String} {state : σ} {fields : Fields}
    (folds : Record.fold.go record step seen state fields = .ok final) (read : key ∈ seen)
    (keeps : ∀ state next other value, other ≠ key → step state other value = .ok next →
      Q state → Q next) (known : Q state) : Q final := by
  induction fields generalizing seen state with
  | nil =>
      cases folds
      exact known
  | cons entry rest ih =>
      obtain ⟨other, value⟩ := entry
      rw [Record.fold.go] at folds
      split at folds
      · split at folds
        · cases folds
        · exact ih folds read known
      split at folds
      · cases folds
      rename_i fresh
      cases stepped : step state other value with
      | error mismatch =>
          rw [stepped] at folds
          cases folds
      | ok next =>
          rw [stepped] at folds
          have different : other ≠ key := by
            rintro rfl
            exact fresh (List.contains_iff_mem.mpr read)
          exact ih folds (List.mem_cons_of_mem _ read) (keeps state next other value different
            stepped known)

/-- What the step of a field brings about, and the others keep, holds when all fields are read. -/
theorem go_sets {seen : List String} {state : σ} {fields : Fields}
    (folds : Record.fold.go record step seen state fields = .ok final)
    (declared : record.declared.contains key = true) (member : (key, value) ∈ fields)
    (sets : ∀ state next, step state key value = .ok next → Q next)
    (keeps : ∀ state next other value, other ≠ key → step state other value = .ok next →
      Q state → Q next) : Q final := by
  induction fields generalizing seen state with
  | nil => cases member
  | cons entry rest ih =>
      obtain ⟨other, found⟩ := entry
      rw [Record.fold.go] at folds
      split at folds
      · rename_i undeclared
        split at folds
        · cases folds
        rcases List.mem_cons.mp member with front | later
        · cases front
          rw [declared] at undeclared
          cases undeclared
        · exact ih folds later
      split at folds
      · cases folds
      cases stepped : step state other found with
      | error mismatch =>
          rw [stepped] at folds
          cases folds
      | ok next =>
          rw [stepped] at folds
          rcases List.mem_cons.mp member with front | later
          · cases front
            exact go_keeps folds List.mem_cons_self keeps (sets state next stepped)
          · exact ih folds later

/-- **What reading a field brings about stays**, if the other fields leave it alone. -/
theorem fold_sets (Q : σ → Prop) (folds : record.fold start step = .ok final)
    (declared : record.declared.contains key = true) (member : (key, value) ∈ record.fields)
    (sets : ∀ state next, step state key value = .ok next → Q next)
    (keeps : ∀ state next other value, other ≠ key → step state other value = .ok next →
      Q state → Q next) : Q final :=
  go_sets folds declared member sets keeps

/-- Every declared field is read by a step. -/
theorem fold_reads (folds : record.fold start step = .ok final)
    (declared : record.declared.contains key = true) (member : (key, value) ∈ record.fields) :
    ∃ state next, step state key value = .ok next :=
  fold_sets (fun _ => ∃ state next, step state key value = .ok next) folds declared member
    (fun state next stepped => ⟨state, next, stepped⟩) fun _ _ _ _ _ _ known => known

/-- **What each field that is read leaves as it is holds at the end.** -/
theorem fold_preserves (Q : σ → Prop) (folds : record.fold start step = .ok final)
    (keeps : ∀ state next key value, step state key value = .ok next → Q state → Q next)
    (known : Q start) : Q final := by
  have go (seen : List String) (state : σ) (fields : Fields)
      (folds : Record.fold.go record step seen state fields = .ok final) (known : Q state) :
      Q final := by
    induction fields generalizing seen state with
    | nil =>
        cases folds
        exact known
    | cons entry rest ih =>
        obtain ⟨key, value⟩ := entry
        rw [Record.fold.go] at folds
        split at folds
        · split at folds
          · cases folds
          · exact ih seen state folds known
        split at folds
        · cases folds
        cases stepped : step state key value with
        | error mismatch =>
            rw [stepped] at folds
            cases folds
        | ok next =>
            rw [stepped] at folds
            exact ih _ next folds (keeps state next key value stepped known)
  exact go [] start record.fields folds known

/-- A strict record has declared fields only. -/
theorem declared_of_fold (folds : record.fold start step = .ok final)
    (strict : record.strict = true) : ∀ entry ∈ record.fields,
      record.declared.contains entry.1 = true := by
  have go (seen : List String) (state : σ) (fields : Fields)
      (folds : Record.fold.go record step seen state fields = .ok final) :
      ∀ entry ∈ fields, record.declared.contains entry.1 = true := by
    induction fields generalizing seen state with
    | nil => exact List.forall_mem_nil _
    | cons entry rest ih =>
        obtain ⟨key, value⟩ := entry
        rw [Record.fold.go, strict] at folds
        split at folds
        · cases folds
        rename_i declared
        split at folds
        · cases folds
        cases stepped : step state key value with
        | error mismatch =>
            rw [stepped] at folds
            cases folds
        | ok next =>
            rw [stepped] at folds
            intro other member
            rcases List.mem_cons.mp member with rfl | later
            · simpa using declared
            · exact ih _ next folds other later
  exact go [] start record.fields folds

/-- A record is as strict as it was taken to be. -/
theorem strict_of_asRecord {name : String} {declared : List String} {strict : Bool}
    (taken : json.asRecord name declared strict = .ok record) : record.strict = strict := by
  cases json <;> cases taken <;> rfl

/-- A record that is finished has nothing over. -/
theorem whole_of_finish {α : Type} {value read : α} (finishes : record.finish value = .ok read) :
    record.excess = none := by
  unfold Record.finish at finishes
  split at finishes
  · cases finishes
  · assumption

/-- A record nests one deeper than its fields. -/
theorem depth_of_fields {name : String} {declared : List String} {strict : Bool} {limit : Nat}
    (taken : json.asRecord name declared strict = .ok record) (whole : record.excess = none)
    (shallow : ∀ entry ∈ record.fields, entry.2.depth ≤ limit) : json.depth ≤ limit + 1 := by
  cases json with
  | object fields =>
      cases taken
      exact Nat.succ_le_succ (depthFields_le_iff.mpr shallow)
  | list items =>
      cases taken
      refine Nat.succ_le_succ (depthItems_le_iff.mpr fun item member => ?_)
      have short : items.length ≤ declared.length := by
        by_contra longer
        simp [Nat.not_le.mp longer] at whole
      obtain ⟨i, inside, rfl⟩ := List.getElem_of_mem member
      have both : i < (declared.zip items).length := by
        rw [List.length_zip]
        omega
      have paired : (declared[i], items[i]) ∈ declared.zip items := by
        have member := List.getElem_mem both
        rwa [List.getElem_zip] at member
      exact shallow _ paired
  | _ => cases taken

/-- A strict record nests one deeper than what its fields are read from. -/
theorem depth_of_strict {name : String} {declared : List String} {limit : Nat}
    (taken : json.asRecord name declared true = .ok record) (whole : record.excess = none)
    (folds : record.fold start step = .ok final)
    (shallow : ∀ state key value next, step state key value = .ok next → value.depth ≤ limit) :
    json.depth ≤ limit + 1 := by
  refine depth_of_fields taken whole fun entry member => ?_
  have declared := declared_of_fold folds (strict_of_asRecord taken) entry member
  obtain ⟨state, next, reads⟩ := fold_reads folds declared member
  exact shallow state entry.1 entry.2 next reads

end Record

end QueryRewriting.Json

import QueryRewriting.Params

/-! # Paths

Any text is a path. Its keys are what stands between its dots, at least one, and no other keys
without dots have this path. What is found at a path is what its keys lead to, from object to
object; where they lead nowhere, nothing is found. -/

namespace QueryRewriting

open Json (Fields)

namespace Params

variable {tree : Params} {key path : String} {names : List String} {value found : Json}

/-! ## Keys -/

/-- The keys of a path, between its dots. -/
def keys (path : String) : List String := splitPath [] path.toList

/-- A path is split as the library splits lists. -/
theorem splitPath_eq (key rest : List Char) :
    splitPath key rest = (List.splitOnPPrepend (· == '.') rest key).map String.ofList := by
  induction rest generalizing key with
  | nil => rfl
  | cons c rest ih =>
      rw [splitPath, List.splitOnPPrepend_cons_eq_if, ih, ih]
      by_cases dot : c = '.'
      · simp [dot]
      · simp [dot]

/-- The keys of a path are what stands between its dots. -/
theorem keys_eq (path : String) : keys path = (path.toList.splitOn '.').map String.ofList :=
  splitPath_eq [] path.toList

/-- A path has a key, if only an empty one. -/
theorem splitPath_ne_nil (key rest : List Char) : splitPath key rest ≠ [] := by
  induction rest generalizing key with
  | nil => exact List.cons_ne_nil _ _
  | cons c rest ih =>
      rw [splitPath]
      split
      · exact List.cons_ne_nil _ _
      · exact ih _

theorem keys_ne_nil (path : String) : keys path ≠ [] := splitPath_ne_nil [] path.toList

/-- A key without dots is a path by itself. -/
theorem keys_of_plain (plain : '.' ∉ key.toList) : keys key = [key] := by
  rw [keys_eq, List.splitOn_eq_singleton plain, List.map_singleton, String.ofList_toList]

/-- Paths with a dot between them have the keys of the one and then those of the other. -/
theorem keys_append (path more : String) : keys s!"{path}.{more}" = keys path ++ keys more := by
  have chars : s!"{path}.{more}".toList = path.toList ++ '.' :: more.toList := by simp [toString]
  rw [keys_eq, keys_eq, keys_eq, chars, List.splitOn, List.splitOnP_append_cons _ _ (by rfl),
    List.map_append]
  rfl

/-- Two keys without dots are the keys of the path with a dot between them. -/
theorem keys_names {first second : String} (left : '.' ∉ first.toList)
    (right : '.' ∉ second.toList) : keys s!"{first}.{second}" = [first, second] := by
  rw [keys_append, keys_of_plain left, keys_of_plain right]
  rfl

/-- No key of a path has a dot. -/
theorem plain_of_mem_splitPath {front rest : List Char} (plain : '.' ∉ front)
    (member : key ∈ splitPath front rest) : '.' ∉ key.toList := by
  induction rest generalizing front with
  | nil =>
      rw [splitPath, List.mem_singleton] at member
      simpa [member] using plain
  | cons c rest ih =>
      rw [splitPath] at member
      split at member
      · rcases List.mem_cons.mp member with rfl | later
        · simpa using plain
        · exact ih List.not_mem_nil later
      · rename_i other
        exact ih (by simp [plain, Ne.symm other]) member

/-- No key of a path has a dot. -/
theorem plain_of_mem_keys (member : key ∈ keys path) : '.' ∉ key.toList :=
  plain_of_mem_splitPath List.not_mem_nil member

/-- The keys with dots between them are the path. -/
theorem intercalate_keys (path : String) : ".".intercalate (keys path) = path := by
  apply String.toList_injective
  rw [String.toList_intercalate, keys_eq, List.map_map]
  simp [Function.comp_def, List.intercalate_splitOn]

/-- Keys without dots are those of the path that they make. -/
theorem keys_intercalate (nonempty : names ≠ []) (plain : ∀ key ∈ names, '.' ∉ key.toList) :
    keys (".".intercalate names) = names := by
  have dot : ".".toList = ['.'] := by simp
  have listed : names.map String.toList ≠ [] := fun none => nonempty (List.map_eq_nil_iff.mp none)
  have apart : ∀ key ∈ names.map String.toList, '.' ∉ key := by
    rwa [List.forall_mem_map]
  rw [keys_eq, String.toList_intercalate, dot, List.splitOn_intercalate '.' apart listed,
    List.map_map]
  simp [Function.comp_def]

/-- **A path has its keys in one way**: any keys without dots, at least one, are those of the path
that has a dot between each two of them, and every path is of this form. -/
theorem keys_eq_iff : keys path = names ↔
    names ≠ [] ∧ (∀ key ∈ names, '.' ∉ key.toList) ∧ path = ".".intercalate names := by
  constructor
  · rintro rfl
    exact ⟨keys_ne_nil path, fun _ => plain_of_mem_keys, (intercalate_keys path).symm⟩
  · rintro ⟨nonempty, plain, rfl⟩
    exact keys_intercalate nonempty plain

/-! ## What keys lead to -/

/-- A tree is searched by the keys of a path. -/
theorem get?_of_keys (cut : keys path = names) :
    tree.get? path = descend (.object tree.root) names := cut ▸ rfl

/-- Some keys lead from a value to one below it, each into an object. -/
inductive Leads : Json → List String → Json → Prop where
  | here (value : Json) : Leads value [] value
  | into {fields : Fields} {key : String} {value : Json} {rest : List String} {found : Json}
      (field : fields.get? key = some value) (onward : Leads value rest found) :
      Leads (.object fields) (key :: rest) found

/-- A search finds exactly what the keys lead to. -/
theorem descend_eq_some_iff : descend value names = some found ↔ Leads value names found := by
  constructor
  · intro finds
    fun_induction descend value names with
    | case1 value =>
        cases finds
        exact .here found
    | case2 key rest fields value field ih => exact .into field (ih finds)
    | case3 => cases finds
    | case4 => cases finds
  · intro leads
    induction leads with
    | here value => rfl
    | into field _ ih =>
        rw [descend, field]
        exact ih

/-- **What is found at a path is what its keys lead to.** -/
theorem get?_eq_some_iff :
    tree.get? path = some found ↔ Leads (.object tree.root) (keys path) found :=
  descend_eq_some_iff

/-- Keys that go on behind others go on from what the others lead to. -/
theorem descend_append (value : Json) (names rest : List String) :
    descend value (names ++ rest) = (descend value names).bind (descend · rest) := by
  induction names generalizing value with
  | nil => rfl
  | cons key names ih =>
      cases value with
      | object fields =>
          rw [List.cons_append, descend, descend]
          cases Fields.get? fields key with
          | none => rfl
          | some value => exact ih value
      | _ => rfl

@[simp] theorem descend_singleton (fields : Fields) (key : String) :
    descend (.object fields) [key] = fields.get? key := by
  rw [descend]
  cases fields.get? key <;> rfl

/-- To go on from a value is to go on in its fields, if it has any. -/
theorem bind_descend (found : Option Json) {rest : List String} (goes : rest ≠ []) :
    found.bind (descend · rest) = descend (.object (fieldsOrEmpty found)) rest := by
  obtain ⟨next, rest, rfl⟩ := List.exists_cons_of_ne_nil goes
  cases found with
  | none => rfl
  | some value => cases value <;> rfl

theorem descend_cons (fields : Fields) (key : String) {rest : List String} (goes : rest ≠ []) :
    descend (.object fields) (key :: rest) =
      descend (.object (fieldsOrEmpty (fields.get? key))) rest := by
  rw [← List.singleton_append, descend_append, descend_singleton, bind_descend _ goes]

/-- **A path that goes on behind another goes on in the object there**, and leads nowhere if there
is none. -/
theorem get?_append (tree : Params) (path more : String) :
    tree.get? s!"{path}.{more}" = (Params.mk (fieldsOrEmpty (tree.get? path))).get? more := by
  rw [get?_of_keys (keys_append path more), descend_append, bind_descend _ (keys_ne_nil more)]
  rfl

theorem get?_empty (path : String) : empty.get? path = none := by
  obtain ⟨key, rest, cut⟩ := List.exists_cons_of_ne_nil (keys_ne_nil path)
  rw [get?_of_keys cut]
  rfl

/-- A key without dots leads to the field of the tree under it. -/
theorem get?_of_plain (plain : '.' ∉ key.toList) : tree.get? key = tree.root.get? key := by
  rw [get?_of_keys (keys_of_plain plain), descend_singleton]

end Params

end QueryRewriting

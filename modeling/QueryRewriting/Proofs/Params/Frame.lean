import QueryRewriting.Proofs.Params.Mounting

/-! # What mounting changes

Parameters that are mounted under an id below a namespace are found on the paths that go on with one
of their keys below the two. What is found on any other path stays, the two themselves apart: a
value that has to give way, since it is no object, has nothing below it. So it matters neither in
which order parameters are mounted under different ids nor how often. -/

namespace QueryRewriting

open Json (Fields)

namespace Params

variable {tree : Params} {paramNamespace otherNamespace id other key path : String}
variable {params : Fields} {value : Json} {rest : List String}

/-! ## Values that are set -/

theorem descend_set_self (fields : Fields) (key : String) (value : Json) (rest : List String) :
    descend (.object (fields.set key value)) (key :: rest) = descend value rest := by
  rw [descend, Fields.get?_set]

/-- Setting a field leaves the paths through the others. -/
theorem descend_set_of_ne (different : other ≠ key) (fields : Fields) (value : Json)
    (rest : List String) :
    descend (.object (fields.set key value)) (other :: rest) =
      descend (.object fields) (other :: rest) := by
  rw [descend, descend, Fields.get?_set_of_ne different]

/-- A path through a field that was given leads into its value. -/
theorem descend_extend_of_some (increasing : params.Increasing)
    (given : params.get? key = some value) (fields : Fields) (rest : List String) :
    descend (.object (fields.extend params)) (key :: rest) = descend value rest := by
  rw [descend, Fields.get?_extend increasing, given]
  rfl

/-- A path through a field that was not given leads where it did. -/
theorem descend_extend_of_none (increasing : params.Increasing) (missing : params.get? key = none)
    (fields : Fields) (rest : List String) :
    descend (.object (fields.extend params)) (key :: rest) =
      descend (.object fields) (key :: rest) := by
  rw [descend, descend, Fields.get?_extend increasing, missing]
  rfl

/-! ## Objects on the way -/

/-- An object is found at a path. -/
def HoldsObject (tree : Params) (path : String) : Prop :=
  ∃ fields, tree.get? path = some (.object fields)

/-- What is no object has no fields. -/
theorem fieldsOrEmpty_of_not_holdsObject (bare : ¬ tree.HoldsObject path) :
    fieldsOrEmpty (tree.get? path) = [] := by
  unfold fieldsOrEmpty
  split
  · rename_i fields found
    exact (bare ⟨fields, found⟩).elim
  · rfl

/-- No path leads through what is no object. -/
theorem get?_eq_none_of_not_holdsObject {front : String} (bare : ¬ tree.HoldsObject front)
    (goes : rest ≠ []) (cut : keys path = keys front ++ rest) : tree.get? path = none := by
  have nothing : fieldsOrEmpty (descend (.object tree.root) (keys front)) = [] :=
    fieldsOrEmpty_of_not_holdsObject bare
  obtain ⟨key, rest, rfl⟩ := List.exists_cons_of_ne_nil goes
  rw [get?_of_keys cut, descend_append, bind_descend _ goes, nothing]
  rfl

/-! ## Paths after mounting -/

/-- Mounting changes nothing outside of the namespace. -/
theorem get?_mount_outside (outside : (keys path).head? ≠ some paramNamespace) :
    (tree.mount paramNamespace id params).get? path = tree.get? path := by
  obtain ⟨key, rest, cut⟩ := List.exists_cons_of_ne_nil (keys_ne_nil path)
  have different : key ≠ paramNamespace := fun same => outside (by rw [cut, same, List.head?_cons])
  rw [get?_of_keys cut, get?_of_keys cut, mount, descend_set_of_ne different]

/-- Inside of the namespace a path leads into what was mounted there. -/
theorem get?_mount_inside (cut : keys path = paramNamespace :: rest) :
    (tree.mount paramNamespace id params).get? path =
      descend (.object (mountAt (fieldsOrEmpty (tree.root.get? paramNamespace)) id params))
        rest := by
  rw [get?_of_keys cut, mount, descend_set_self]

/-- Mounting changes nothing under other ids. -/
theorem get?_mount_beside (cut : keys path = paramNamespace :: other :: rest)
    (different : other ≠ id) (tree : Params) (params : Fields) :
    (tree.mount paramNamespace id params).get? path = tree.get? path := by
  rw [get?_mount_inside cut, mountAt, descend_set_of_ne different, get?_of_keys cut,
    descend_cons _ _ (List.cons_ne_nil _ _)]

/-- Under the id a path leads into the parameters, over those that were there. -/
theorem get?_mount_below (cut : keys path = paramNamespace :: id :: rest) :
    (tree.mount paramNamespace id params).get? path =
      descend (.object ((tree.mounted paramNamespace id).root.extend params)) rest := by
  rw [get?_mount_inside cut, mountAt, descend_set_self]
  rfl

/-- A path through a parameter that was given leads into its value. -/
theorem get?_mount_given (increasing : params.Increasing)
    (cut : keys path = paramNamespace :: id :: key :: rest) (given : params.get? key = some value) :
    (tree.mount paramNamespace id params).get? path = descend value rest := by
  rw [get?_mount_below cut, descend_extend_of_some increasing given]

/-- A path through a parameter that was not given leads where it did. -/
theorem get?_mount_kept (increasing : params.Increasing)
    (cut : keys path = paramNamespace :: id :: key :: rest) (missing : params.get? key = none)
    (tree : Params) :
    (tree.mount paramNamespace id params).get? path = tree.get? path := by
  rw [get?_mount_below cut, descend_extend_of_none increasing missing, get?_of_keys cut,
    descend_cons _ _ (List.cons_ne_nil _ _), descend_cons _ _ (List.cons_ne_nil _ _)]
  rfl

/-! ## Mounting more than once -/

/-- It does not matter in which order two ids are mounted. -/
theorem mountAt_comm (different : id ≠ other) (fields params others : Fields) :
    mountAt (mountAt fields id params) other others =
      mountAt (mountAt fields other others) id params := by
  simp only [mountAt, Fields.get?_set_of_ne different, Fields.get?_set_of_ne different.symm]
  exact Fields.set_comm different fields _ _

/-- Mounting the same again changes nothing. -/
theorem mountAt_mountAt (fields : Fields) (id : String) (params : Fields) :
    mountAt (mountAt fields id params) id params = mountAt fields id params := by
  simp only [mountAt, Fields.get?_set, fieldsOrEmpty, Fields.extend_extend, Fields.set_set]

/-- Two mounts below one namespace are made in the fields there. -/
theorem mount_mount (tree : Params) (paramNamespace id other : String) (params others : Fields) :
    (tree.mount paramNamespace id params).mount paramNamespace other others =
      ⟨tree.root.set paramNamespace (.object (mountAt
        (mountAt (fieldsOrEmpty (tree.root.get? paramNamespace)) id params) other others))⟩ := by
  simp only [mount, Fields.get?_set, Fields.set_set]
  rfl

/-- **Mounts under different ids, or below different namespaces, can be made in either order.** -/
theorem mount_comm (different : id ≠ other ∨ paramNamespace ≠ otherNamespace) (tree : Params)
    (params others : Fields) :
    (tree.mount paramNamespace id params).mount otherNamespace other others =
      (tree.mount otherNamespace other others).mount paramNamespace id params := by
  by_cases same : paramNamespace = otherNamespace
  · subst same
    have apart : id ≠ other := different.resolve_right (absurd rfl)
    rw [mount_mount, mount_mount, mountAt_comm apart]
  · simp only [mount, Fields.get?_set_of_ne same, Fields.get?_set_of_ne (Ne.symm same)]
    exact congrArg Params.mk (Fields.set_comm same tree.root _ _)

/-- **Mounting the same parameters again changes nothing.** -/
theorem mount_again (tree : Params) (paramNamespace id : String) (params : Fields) :
    (tree.mount paramNamespace id params).mount paramNamespace id params =
      tree.mount paramNamespace id params := by
  rw [mount_mount, mountAt_mountAt]
  rfl

/-! ## The frame -/

/-- What is found in a tree after parameters were mounted under an id below a namespace, said of
what was found before. -/
structure Framed (before after : Params) (paramNamespace id : String) (params : Fields) : Prop where
  /-- A path on to a key of the parameters leads into its value. -/
  given : ∀ path key rest value, keys path = paramNamespace :: id :: key :: rest →
    params.get? key = some value → after.get? path = descend value rest
  /-- A path on to another key leads where it did, which is nowhere unless the id held an object. -/
  kept : ∀ path key rest, keys path = paramNamespace :: id :: key :: rest →
    params.get? key = none → after.get? path = before.get? path ∧
      (¬ before.HoldsObject s!"{paramNamespace}.{id}" → after.get? path = none)
  /-- So does a path to another id, which is nowhere unless the namespace held an object. -/
  beside : ∀ path other rest, keys path = paramNamespace :: other :: rest → other ≠ id →
    after.get? path = before.get? path ∧
      (¬ before.HoldsObject paramNamespace → after.get? path = none)
  outside : ∀ path, (keys path).head? ≠ some paramNamespace → after.get? path = before.get? path
  namespaceObject : after.HoldsObject paramNamespace
  idObject : after.HoldsObject s!"{paramNamespace}.{id}"

/-- What mounting changes, and what it leaves. -/
theorem framed_mount (first : '.' ∉ paramNamespace.toList) (second : '.' ∉ id.toList)
    (increasing : params.Increasing) (tree : Params) :
    Framed tree (tree.mount paramNamespace id params) paramNamespace id params where
  given path key rest value cut given := get?_mount_given increasing cut given
  kept path key rest cut missing := by
    have same := get?_mount_kept increasing cut missing tree
    refine ⟨same, fun bare => same.trans ?_⟩
    refine get?_eq_none_of_not_holdsObject bare (List.cons_ne_nil key rest) ?_
    rw [cut, keys_names first second]
    rfl
  beside path other rest cut different := by
    have same := get?_mount_beside cut different tree params
    refine ⟨same, fun bare => same.trans ?_⟩
    refine get?_eq_none_of_not_holdsObject bare (List.cons_ne_nil other rest) ?_
    rw [cut, keys_of_plain first]
    rfl
  outside path outside := get?_mount_outside outside
  namespaceObject := ⟨_, get?_mount_inside (keys_of_plain first)⟩
  idObject := ⟨_, get?_mount_below (keys_names first second)⟩

end Params

open Params

/-- **Mounting has an exact frame.** After parameters were mounted under an id below a namespace,
both names without dots, the two lead to objects, the paths below them that go on with a key of the
parameters lead into its value, and all other paths lead where they led before: so where one of the
two held no object, a path on to anything else leads nowhere. Hence mounts of different places can
be made in either order, and one that is made twice is as if made once. Every text is the path of
just one list of keys, none of which has a dot. Looking it up always has an answer: what the keys
lead to from object to object, or nothing, as on the way through any value that is no object. -/
theorem mounts_are_framed :
    (∀ (tree : Params) (paramNamespace id : String) (params : Fields),
      '.' ∉ paramNamespace.toList → '.' ∉ id.toList → params.Increasing →
      Framed tree (tree.mount paramNamespace id params) paramNamespace id params) ∧
    (∀ (tree : Params) (paramNamespace otherNamespace id other : String) (params others : Fields),
      id ≠ other ∨ paramNamespace ≠ otherNamespace →
      (tree.mount paramNamespace id params).mount otherNamespace other others =
        (tree.mount otherNamespace other others).mount paramNamespace id params) ∧
    (∀ (tree : Params) (paramNamespace id : String) (params : Fields),
      (tree.mount paramNamespace id params).mount paramNamespace id params =
        tree.mount paramNamespace id params) ∧
    (∀ (path : String) (names : List String), keys path = names ↔
      names ≠ [] ∧ (∀ key ∈ names, '.' ∉ key.toList) ∧ path = ".".intercalate names) ∧
    ∀ (tree : Params) (path : String),
      (∀ found, tree.get? path = some found ↔ Leads (.object tree.root) (keys path) found) ∧
      (¬ tree.HoldsObject path → ∀ more : String, tree.get? s!"{path}.{more}" = none) := by
  refine ⟨?framed, ?order, ?again, fun _ _ => keys_eq_iff, fun tree path => ⟨?finds, ?through⟩⟩
  case framed =>
    intro tree paramNamespace id params first second increasing
    exact framed_mount first second increasing tree
  case order =>
    intro tree paramNamespace otherNamespace id other params others different
    exact mount_comm different tree params others
  case again =>
    intro tree paramNamespace id params
    exact mount_again tree paramNamespace id params
  case finds =>
    intro found
    exact get?_eq_some_iff
  case through =>
    intro bare more
    exact get?_eq_none_of_not_holdsObject bare (keys_ne_nil more) (keys_append path more)

/-! ### Parameters over a value that is no object -/

/-- A tree with parameters of one rewriter, and a text where those of another would stand. -/
def bluntParams : Params where
  root := [("limit", .whole 7), ("qrw", .object [("promo", .text "off"),
    ("spelling", .object [("enabled", .bool true), ("limit", .whole 7)])])]

/-- Parameters to be mounted. -/
def deepParams : Fields :=
  [("limit", .whole 3), ("nested", .object [("deep", .object [("flag", .bool false)])])]

/-- The parameters are merged with those that stand there, and replace the text. -/
theorem bluntParams_framed :
    let spelled := bluntParams.mount "qrw" "spelling" deepParams
    let promoted := bluntParams.mount "qrw" "promo" deepParams
    spelled.get? "qrw.spelling.nested.deep.flag" = some (.bool false) ∧
      spelled.get? "qrw.spelling.enabled" = some (.bool true) ∧
      spelled.get? "qrw.promo" = some (.text "off") ∧
      spelled.get? "limit" = some (.whole 7) ∧
      promoted.HoldsObject "qrw.promo" ∧
      promoted.get? "qrw.promo.enabled" = none ∧
      spelled.mount "qrw" "promo" deepParams = promoted.mount "qrw" "spelling" deepParams ∧
      promoted.get? "limit..more" = none := by
  have increasing : deepParams.Increasing := by
    refine List.pairwise_map.mp (?_ : (deepParams.map (·.1)).Pairwise (· < ·))
    decide
  obtain ⟨framed, order, _, _, finds⟩ := mounts_are_framed
  have spelled := framed bluntParams "qrw" "spelling" deepParams (by decide) (by decide) increasing
  have promoted := framed bluntParams "qrw" "promo" deepParams (by decide) (by decide) increasing
  refine ⟨?_, ?_, ?_, ?_, promoted.idObject, ?_, ?_, ?_⟩
  · exact spelled.given _ "nested" ["deep", "flag"] _ rfl rfl
  · exact (spelled.kept _ "enabled" [] rfl rfl).1
  · exact (spelled.beside _ "promo" [] rfl (by decide)).1
  · exact spelled.outside _ (by decide)
  · refine (promoted.kept _ "enabled" [] rfl rfl).2 ?_
    rintro ⟨fields, found⟩
    cases found
  · exact order bluntParams "qrw" "qrw" "spelling" "promo" deepParams deepParams
      (Or.inl (by decide))
  · have text := promoted.outside "limit" (by decide)
    refine (finds _ "limit").2 ?_ ".more"
    rintro ⟨fields, found⟩
    rw [text] at found
    cases found

end QueryRewriting

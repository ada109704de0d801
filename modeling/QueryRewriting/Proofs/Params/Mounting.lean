import QueryRewriting.Proofs.Json.Fields
import QueryRewriting.Proofs.Params.Paths

/-! # Parameters below two names

A path is cut at its dots, so a name without dots that stands in front of a path is its first key.
What is mounted under a name below a namespace is therefore found under just those paths that begin
with the two, and mounting something else there does not touch it. -/

namespace QueryRewriting

open Json (Fields)

namespace Params

variable {tree : Params} {paramNamespace id other : String}

/-! ## What stands below two names -/

/-- The parameters mounted under a name below a namespace. -/
def mounted (tree : Params) (paramNamespace id : String) : Params :=
  ⟨fieldsOrEmpty ((fieldsOrEmpty (tree.root.get? paramNamespace)).get? id)⟩

/-- The path of an id leads to its parameters. -/
theorem get?_names (first : '.' ∉ paramNamespace.toList) (second : '.' ∉ id.toList) :
    tree.get? s!"{paramNamespace}.{id}" =
      (fieldsOrEmpty (tree.root.get? paramNamespace)).get? id := by
  rw [get?_append, get?_of_plain second, get?_of_plain first]

/-- **A path below two names is a path in what is mounted there.** -/
theorem get?_mounted (first : '.' ∉ paramNamespace.toList) (second : '.' ∉ id.toList)
    (key : String) :
    tree.get? s!"{paramNamespace}.{id}.{key}" = (tree.mounted paramNamespace id).get? key := by
  calc tree.get? s!"{paramNamespace}.{id}.{key}"
      = (Params.mk (fieldsOrEmpty (tree.get? s!"{paramNamespace}.{id}"))).get? key :=
        get?_append tree _ key
    _ = (tree.mounted paramNamespace id).get? key := by
        rw [get?_names first second]
        rfl

@[simp] theorem mounted_empty (paramNamespace id : String) :
    empty.mounted paramNamespace id = empty := rfl

/-! ## Mounting -/

theorem mounted_mount_self (tree : Params) (paramNamespace id : String) (params : Fields) :
    (tree.mount paramNamespace id params).mounted paramNamespace id =
      ⟨(tree.mounted paramNamespace id).root.extend params⟩ := by
  simp [mounted, mount, mountAt, fieldsOrEmpty]

/-- Mounting leaves the parameters of other ids. -/
theorem mounted_mount_of_ne (different : other ≠ id) (tree : Params) (paramNamespace : String)
    (params : Fields) :
    (tree.mount paramNamespace id params).mounted paramNamespace other =
      tree.mounted paramNamespace other := by
  simp [mounted, mount, mountAt, fieldsOrEmpty, Fields.get?_set_of_ne different]

end Params

end QueryRewriting

import QueryRewriting.Kind

/-! # The kind that does nothing

It takes no configuration.
-/

namespace QueryRewriting.Kind

open Text

/-- How much memory the rewriter takes, by a rough count. -/
def noopSize (id : String) : Nat := 64 + id.utf8ByteSize

/-- The kind of rewriters that do nothing, and have nothing to set. -/
def noop : Kind where
  name := "noop"
  bareSize := noopSize
  compile id config :=
    if config.isEmpty then
      .ok { id, size := noopSize id, apply := fun _ expansion => .ok (expansion, []) }
    else .error (config.map fun (key, _) => s!"noop does not accept config key {quoted key}.")

end QueryRewriting.Kind

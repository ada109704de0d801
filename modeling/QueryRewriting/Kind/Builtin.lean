import QueryRewriting.Kind.Clauses
import QueryRewriting.Kind.Noop
import QueryRewriting.Kind.Replace

/-! # The kinds every node knows -/

namespace QueryRewriting

/-- The kinds that need no registration. -/
def Kinds.builtin : Kinds := ⟨[Kind.clauses, Kind.noop, Kind.replace]⟩

end QueryRewriting

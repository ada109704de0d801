import QueryRewriting.Cache.Interleaving

/-! # Calls in time

Steps take no time of their own; what takes time is the store. Of all calls that can go on, the one
that is due first acts next, and of those due together the one that began first.
-/

namespace QueryRewriting

/-- Whether a call can go on by itself: it neither has its answer nor waits for another's load. -/
def Call.isActive : Call → Bool
  | .lookup _ (.answered _) => false
  | .lookup _ (.waiting _ _) => false
  | .reload _ (.answered _) => false
  | .invalidation _ (.answered _) => false
  | .cancelled => false
  | _ => true

/-- A workload, and when each of its calls is due. -/
structure Timeline where
  work : Workload
  due : List Nat

namespace Timeline

/-- The calls of some requests that all begin at once. -/
def start (store : Store) (cache : PartitionCache) (requests : List Request) : Timeline where
  work := { store, cache, calls := requests.map Call.start }
  due := requests.map fun _ => 0

/-- The earlier of two calls, each given by its place and the time at which it is due. -/
def earlier (best : Option (Nat × Nat)) (call : Nat × Nat) : Option (Nat × Nat) :=
  match best with
  | some (n, time) => if call.2 < time then some call else some (n, time)
  | none => some call

/-- The call whose step is due first, and when. Of several it is the one that began first. -/
def next? (timeline : Timeline) : Option (Nat × Nat) :=
  let calls := (timeline.work.calls.zip timeline.due).zipIdx
  let active := calls.filter fun ((call, _), _) => call.isActive
  (active.map fun ((_, time), n) => (n, time)).foldl earlier none

/-- Lets a call act at its time. It is due again after the delay of its new step, and so are the
calls that it woke. -/
def act (kinds : Kinds) (delays : Delays) (timeline : Timeline) (n now : Nat) : Timeline :=
  let work := timeline.work.stepCall kinds n
  let due := ((timeline.work.calls.zip work.calls).zip timeline.due).zipIdx.map
    fun (((old, new), time), k) =>
      if k = n || old.isActive != new.isActive then now + new.delay delays else time
  { work, due }

end Timeline

end QueryRewriting

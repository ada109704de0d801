import QueryRewriting.Cache.Call

/-! # Calls side by side

One partition, the store behind it, and calls that take their steps in any order while the store is
written, fails and recovers, and instances expire.
-/

namespace QueryRewriting

/-- A partition at work. A call is known by its place in the list. -/
structure Workload where
  store : Store
  cache : PartitionCache
  calls : List Call

/-- What may happen next. -/
inductive Event where
  | begin (request : Request)
  | step (call : Nat)
  | cancel (call : Nat)
  | put (definition : Definition)
  | delete (id : String)
  | outage (failed : Bool)
  /-- The instance of an id has been kept for too long, or gives way to others. -/
  | expire (id : String)

namespace Workload

/-- Whether the store has replied to the load of a call. -/
def hasReply (work : Workload) (n : Nat) : Bool := (work.calls[n]?.map Call.hasReply).getD false

/-- A call takes a step; the outcome of a load that it ends reaches everyone who waits for it. -/
def stepCall (kinds : Kinds) (work : Workload) (n : Nat) : Workload :=
  match work.calls[n]? with
  | none => work
  | some call =>
    let (next, store, cache) := call.step kinds work.store work.cache
    let calls := work.calls.set n next
    match call.published? with
    | some (serial, outcome) => { store, cache, calls := calls.map (Call.deliver serial outcome) }
    | none => { store, cache, calls }

/-- A call is dropped; whoever waits for its load looks again. -/
def cancelCall (work : Workload) (n : Nat) : Workload :=
  match work.calls[n]? with
  | none => work
  | some call =>
    let calls := work.calls.set n .cancelled
    match call.abandoned? with
    | some (id, serial) =>
      { work with cache := work.cache.endLoad id, calls := calls.map (Call.release serial) }
    | none => { work with calls }

/-- What an event makes of a workload. A write that the store refuses changes nothing. -/
def next (kinds : Kinds) (work : Workload) : Event → Workload
  | .begin request => { work with calls := work.calls ++ [.start request] }
  | .step n => work.stepCall kinds n
  | .cancel n => work.cancelCall n
  | .put definition => { work with store := (work.store.put definition).toOption.getD work.store }
  | .delete id =>
    { work with store := ((work.store.delete id).toOption.map (·.2)).getD work.store }
  | .outage failed => { work with store := { work.store with available := !failed } }
  | .expire id => { work with cache := work.cache.remove id }

/-- What events make of a workload, one after the other. -/
def run (kinds : Kinds) (work : Workload) (events : List Event) : Workload :=
  events.foldl (next kinds) work

end Workload

end QueryRewriting

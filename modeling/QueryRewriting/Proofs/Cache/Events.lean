import QueryRewriting.Proofs.Cache.Steps

/-! # What one event changes

Of all calls at work an event moves one, and at most those that wait for the load which that call
ends or abandons. The cache changes by the step of a call, when a load is abandoned, or when an
instance expires.
-/

namespace QueryRewriting

namespace Call

variable {call : Call}

/-- An outcome reaches just those who wait for its load. -/
theorem deliver_eq (serial : Nat) (outcome : Except LoadError Instance) (call : Call) :
    call.deliver serial outcome = call ∨
      ∃ id tries, call = .lookup id (.waiting tries serial) ∧
        call.deliver serial outcome = .lookup id (.receive tries outcome) := by
  unfold deliver
  split
  · rename_i id tries awaited
    split
    · rename_i same
      subst same
      exact Or.inr ⟨id, tries, rfl, rfl⟩
    · exact Or.inl rfl
  · exact Or.inl rfl

/-- The end of a load without an outcome reaches just those who wait for it. -/
theorem release_eq (serial : Nat) (call : Call) :
    call.release serial = call ∨
      ∃ id tries, call = .lookup id (.waiting tries serial) ∧
        call.release serial = .lookup id (.seeking tries) := by
  unfold release
  split
  · rename_i id tries awaited
    split
    · rename_i same
      subst same
      exact Or.inr ⟨id, tries, rfl, rfl⟩
    · exact Or.inl rfl
  · exact Or.inl rfl

/-- A call that ends a load is a lookup that tells the others of it. -/
theorem eq_of_published {serial : Nat} {outcome : Except LoadError Instance}
    (ends : call.published? = some (serial, outcome)) :
    ∃ id tries, call = .lookup id (.publishing tries serial outcome) := by
  unfold published? at ends
  split at ends
  · rename_i id tries number told
    cases ends
    exact ⟨id, tries, rfl⟩
  · cases ends

/-- Whoever ends a load does not wait for one, so nothing is delivered to it. -/
theorem deliver_step {serial : Nat} {outcome : Except LoadError Instance}
    (ends : call.published? = some (serial, outcome)) (kinds : Kinds) (store : Store)
    (cache : PartitionCache) :
    (call.step kinds store cache).1.deliver serial outcome = (call.step kinds store cache).1 := by
  obtain ⟨id, tries, rfl⟩ := eq_of_published ends
  cases outcome <;> rfl

end Call

namespace Workload

variable {kinds : Kinds} {work : Workload} {event : Event}

/-! ## Calls -/

/-- What a call was before an event, given what it is after it. -/
inductive Becomes (kinds : Kinds) (work : Workload) (event : Event) (n : Nat) : Call → Prop where
  | same {call} (was : work.calls[n]? = some call)
      (unmoved : event ≠ .step n ∧ event ≠ .cancel n) : Becomes kinds work event n call
  | begun {request} (begins : event = .begin request) (last : n = work.calls.length) :
      Becomes kinds work event n (.start request)
  | stepped {call} (steps : event = .step n) (was : work.calls[n]? = some call) :
      Becomes kinds work event n (call.step kinds work.store work.cache).1
  | received {k owner serial outcome id tries} (steps : event = .step k)
      (owns : work.calls[k]? = some owner) (ends : owner.published? = some (serial, outcome))
      (was : work.calls[n]? = some (.lookup id (.waiting tries serial))) :
      Becomes kinds work event n (.lookup id (.receive tries outcome))
  | dropped (cancels : event = .cancel n) : Becomes kinds work event n .cancelled
  | released {k owner id serial subject tries} (cancels : event = .cancel k)
      (owns : work.calls[k]? = some owner) (abandons : owner.abandoned? = some (id, serial))
      (was : work.calls[n]? = some (.lookup subject (.waiting tries serial))) :
      Becomes kinds work event n (.lookup subject (.seeking tries))

/-- The call that takes a step is the one that its step leads to. -/
theorem calls_step_self {n : Nat} {call : Call} (was : work.calls[n]? = some call) :
    (work.next kinds (.step n)).calls[n]? = some (call.step kinds work.store work.cache).1 := by
  have inside : n < work.calls.length := (List.getElem?_eq_some_iff.mp was).1
  simp only [next, stepCall, was]
  split
  · rename_i serial outcome ends
    rw [List.getElem?_map, List.getElem?_set_self inside, Option.map_some, Call.deliver_step ends]
  · exact List.getElem?_set_self inside

/-- What becomes of the calls when one of them takes a step. -/
theorem becomes_stepCall {k n : Nat} {after : Call}
    (found : (work.stepCall kinds k).calls[n]? = some after) :
    Becomes kinds work (.step k) n after := by
  unfold stepCall at found
  cases acting : work.calls[k]? with
  | none =>
      simp only [acting] at found
      have other : k ≠ n := by
        rintro rfl
        exact Option.some_ne_none _ (found.symm.trans acting)
      exact .same found (by simp [other])
  | some call =>
      simp only [acting] at found
      have inside : k < work.calls.length := (List.getElem?_eq_some_iff.mp acting).1
      cases ends : call.published? with
      | none =>
          simp only [ends] at found
          by_cases own : k = n
          · subst own
            rw [List.getElem?_set_self inside] at found
            cases found
            exact .stepped rfl acting
          · rw [List.getElem?_set_ne own] at found
            exact .same found (by simp [own])
      | some told =>
          obtain ⟨serial, outcome⟩ := told
          simp only [ends, List.getElem?_map, Option.map_eq_some_iff] at found
          obtain ⟨before, was, rfl⟩ := found
          by_cases own : k = n
          · subst own
            rw [List.getElem?_set_self inside] at was
            cases was
            rw [Call.deliver_step ends]
            exact .stepped rfl acting
          · rw [List.getElem?_set_ne own] at was
            rcases Call.deliver_eq serial outcome before with kept | ⟨id, tries, rfl, told⟩
            · rw [kept]
              exact .same was (by simp [own])
            · rw [told]
              exact .received rfl acting ends was

/-- What becomes of the calls when one of them is dropped. -/
theorem becomes_cancelCall {k n : Nat} {after : Call}
    (found : (work.cancelCall k).calls[n]? = some after) :
    Becomes kinds work (.cancel k) n after := by
  unfold cancelCall at found
  cases acting : work.calls[k]? with
  | none =>
      simp only [acting] at found
      have other : k ≠ n := by
        rintro rfl
        exact Option.some_ne_none _ (found.symm.trans acting)
      exact .same found (by simp [other])
  | some call =>
      simp only [acting] at found
      have inside : k < work.calls.length := (List.getElem?_eq_some_iff.mp acting).1
      cases abandons : call.abandoned? with
      | none =>
          simp only [abandons] at found
          by_cases own : k = n
          · subst own
            rw [List.getElem?_set_self inside] at found
            cases found
            exact .dropped rfl
          · rw [List.getElem?_set_ne own] at found
            exact .same found (by simp [own])
      | some load =>
          obtain ⟨id, serial⟩ := load
          simp only [abandons, List.getElem?_map, Option.map_eq_some_iff] at found
          obtain ⟨before, was, rfl⟩ := found
          by_cases own : k = n
          · subst own
            rw [List.getElem?_set_self inside] at was
            cases was
            exact .dropped rfl
          · rw [List.getElem?_set_ne own] at was
            rcases Call.release_eq serial before with kept | ⟨subject, tries, rfl, freed⟩
            · rw [kept]
              exact .same was (by simp [own])
            · rw [freed]
              exact .released rfl acting abandons was

/-- What becomes of the calls at an event. -/
theorem becomes_next {n : Nat} {after : Call}
    (found : (work.next kinds event).calls[n]? = some after) :
    Becomes kinds work event n after := by
  cases event with
  | begin request =>
      simp only [next] at found
      rcases Nat.lt_trichotomy n work.calls.length with before | last | beyond
      · rw [List.getElem?_append_left before] at found
        exact .same found (by simp)
      · subst last
        rw [List.getElem?_concat_length] at found
        cases found
        exact .begun rfl rfl
      · rw [List.getElem?_eq_none (by simp; omega)] at found
        cases found
  | step k => exact becomes_stepCall found
  | cancel k => exact becomes_cancelCall found
  | put definition => exact .same found (by simp)
  | delete id => exact .same found (by simp)
  | outage failed => exact .same found (by simp)
  | expire id => exact .same found (by simp)

/-! ## The cache -/

/-- What an event makes of the cache. -/
inductive CacheMove (kinds : Kinds) (work : Workload) (event : Event) : PartitionCache → Prop where
  | same : CacheMove kinds work event work.cache
  | stepped {k call} (steps : event = .step k) (was : work.calls[k]? = some call) :
      CacheMove kinds work event (call.step kinds work.store work.cache).2.2
  | abandoned {k call id serial} (cancels : event = .cancel k) (was : work.calls[k]? = some call)
      (abandons : call.abandoned? = some (id, serial)) :
      CacheMove kinds work event (work.cache.endLoad id)
  | expired {id} (expires : event = .expire id) : CacheMove kinds work event (work.cache.remove id)

/-- What becomes of the cache at an event. -/
theorem cacheMove_next (kinds : Kinds) (work : Workload) (event : Event) :
    CacheMove kinds work event (work.next kinds event).cache := by
  cases event with
  | step k =>
      simp only [next, stepCall]
      cases acting : work.calls[k]? with
      | none => exact .same
      | some call =>
          simp only
          split <;> exact .stepped rfl acting
  | cancel k =>
      simp only [next, cancelCall]
      cases acting : work.calls[k]? with
      | none => exact .same
      | some call =>
          simp only
          split
          · rename_i id serial abandons
            exact .abandoned rfl acting abandons
          · exact .same
  | expire id => exact .expired rfl
  | _ => exact .same

/-- No event changes how much room a cache has. -/
theorem CacheMove.maxBytes {after : PartitionCache} (move : CacheMove kinds work event after) :
    after.maxBytes = work.cache.maxBytes := by
  cases move with
  | stepped => exact (Call.effect_step ..).maxBytes
  | _ => rfl

/-- Serial numbers are given out in order. -/
theorem CacheMove.nextSerial_le {after : PartitionCache} (move : CacheMove kinds work event after) :
    work.cache.nextSerial ≤ after.nextSerial := by
  cases move with
  | stepped => exact (Call.effect_step ..).nextSerial_le
  | _ => exact le_rfl

/-- No mark ever gets later than the clock. -/
theorem CacheMove.marks_wellFormed {after : PartitionCache}
    (move : CacheMove kinds work event after) (wf : work.cache.marks.WellFormed) :
    after.marks.WellFormed := by
  cases move with
  | stepped => exact (Call.effect_step ..).marks_wellFormed wf
  | _ => exact wf

/-! ## The store -/

/-- A put writes its document, if the store works. -/
theorem store_put (kinds : Kinds) (work : Workload) (definition : Definition) :
    (work.next kinds (.put definition)).store =
      if work.store.available then
        work.store.write definition.id (some definition.toDocument)
      else work.store := by
  rw [next, Store.put_eq]
  split <;> rfl

/-- A deletion drops the document, if the store works. -/
theorem store_delete (kinds : Kinds) (work : Workload) (id : String) :
    (work.next kinds (.delete id)).store =
      if work.store.available then work.store.write id none else work.store := by
  rw [next, Store.delete_eq]
  split <;> rfl

end Workload

end QueryRewriting

import QueryRewriting.Proofs.Cache.SharedErrors

/-! # Times in which only lookups touch an id

From one time to another an id is untouched if nobody reloads it or invalidates it, its instance
does not expire, the marks of other ids stay apart from it, and whoever loads it is not dropped. The
store may be written and fail, and calls on other ids may do what they like: they leave the instance
of this id, the load of it and its marks alone.
-/

namespace QueryRewriting

namespace Call

variable {kinds : Kinds} {store : Store} {cache after : PartitionCache} {call : Call}
  {id : String} {serial : Nat}

/-- Whether a call reloads an id, or invalidates it, alone or with all others. -/
def Touches (id : String) : Call → Prop
  | .reload key _ => key = id
  | .invalidation id? _ => id? = some id ∨ id? = none
  | _ => False

/-- Whoever marks an id touches it. -/
theorem touches_of_marking {id? : Option String} (marking : call.marking? = some id?)
    (covers : id? = some id ∨ id? = none) : call.Touches id := by
  unfold marking? at marking
  split at marking
  · cases marking
    simpa [Touches] using covers
  · cases marking
    simpa [Touches] using covers
  · cases marking
    exact covers
  · cases marking

/-- Whoever removes an id touches it. -/
theorem touches_of_removing {id? : Option String} (removing : call.removing? = some id?)
    (covers : id? = some id ∨ id? = none) : call.Touches id := by
  unfold removing? at removing
  split at removing
  · cases removing
    simpa [Touches] using covers
  · cases removing
    exact covers
  · cases removing

/-- Of those who are asked for an id only lookups leave it untouched. -/
theorem eq_lookup_of_subject (subject : call.subject? = some id) (untouched : ¬ call.Touches id) :
    ∃ phase, call = .lookup id phase := by
  cases call with
  | lookup key phase =>
      cases subject
      exact ⟨phase, rfl⟩
  | reload key phase =>
      cases subject
      exact (untouched rfl).elim
  | invalidation id? phase => cases subject
  | cancelled => cases subject

/-- Whoever was asked for another id does not touch this one. -/
theorem not_touches_of_subject {key : String} (subject : call.subject? = some key)
    (distinct : id ≠ key) : ¬ call.Touches id := by
  intro touches
  cases call with
  | reload other phase =>
      cases subject
      exact distinct touches.symm
  | invalidation id? phase => cases subject
  | _ => exact touches

/-- Only lookups load an id that is not touched. -/
theorem eq_loading_of_load {load : Load} (carries : call.load? = some (id, serial, load))
    (untouched : ¬ call.Touches id) : ∃ tries, call = .lookup id (.loading tries serial load) := by
  unfold load? at carries
  split at carries
  · cases carries
    exact ⟨_, rfl⟩
  · cases carries
    exact (untouched rfl).elim
  · cases carries

/-- Whoever drops an instance has it in hand. -/
theorem instance?_of_discards {made : Instance} (discarding : call.discards? = some made) :
    call.instance? = some made := by
  unfold discards? at discarding
  split at discarding
  · exact discarding
  · exact discarding
  · cases discarding

/-- A step that does not touch an id, and installs and drops nothing of it, leaves what is held. -/
theorem Effect.get?_eq (effect : call.Effect cache after) (untouched : ¬ call.Touches id)
    (installs : ∀ made, call.installs? = some made → id ≠ made.id)
    (discards : ∀ made, call.discards? = some made → id ≠ made.id) :
    after.get? id = cache.get? id := by
  cases effect with
  | installed installing => exact PartitionCache.get?_insert_of_ne (installs _ installing) cache
  | discarded discarding => exact PartitionCache.get?_discard_of_ne (discards _ discarding) cache
  | @removed key removing =>
      have distinct : id ≠ key := by
        rintro rfl
        exact untouched (touches_of_removing removing (.inl rfl))
      exact PartitionCache.get?_remove_of_ne distinct cache
  | cleared removing => exact (untouched (touches_of_removing removing (.inr rfl))).elim
  | _ => rfl

/-- A step that does not touch an id invalidates nothing of it, unless it marks all. -/
theorem Effect.invalidatedSince_eq (effect : call.Effect cache after)
    (wf : cache.marks.WellFormed) (untouched : ¬ call.Touches id)
    (apart : after.marks.all = cache.marks.all) (stamp : Nat) :
    after.marks.invalidatedSince id stamp = cache.marks.invalidatedSince id stamp := by
  cases effect with
  | @marked key marking =>
      have distinct : id ≠ key := by
        rintro rfl
        exact untouched (touches_of_marking marking (.inl rfl))
      exact wf.invalidatedSince_mark_of_ne distinct apart
  | allMarked marking => exact (untouched (touches_of_marking marking (.inr rfl))).elim
  | installed => rw [PartitionCache.marks_insert]
  | discarded => rw [PartitionCache.marks_discard]
  | _ => rfl

/-- A call begins and ends no load but of its own id. -/
theorem Effect.loading?_of_ne (effect : call.Effect cache after) {key : String}
    (subject : call.subject? = some key) (distinct : id ≠ key) :
    after.loading? id = cache.loading? id := by
  cases effect with
  | loadBegun seeking =>
      subst seeking
      cases subject
      exact PartitionCache.loading?_beginLoad_of_ne distinct cache
  | loadEnded publishing =>
      subst publishing
      cases subject
      exact PartitionCache.loading?_endLoad_of_ne distinct cache
  | installed => rw [PartitionCache.loading?, PartitionCache.loads_insert, PartitionCache.loading?]
  | discarded => rw [PartitionCache.loading?, PartitionCache.loads_discard, PartitionCache.loading?]
  | _ => rfl

end Call

namespace Workload

variable {work : Workload}

/-- At most one lookup carries out a load of an id. -/
theorem Coherent.eq_of_owned (coherent : work.Coherent) {m n : Nat} {first second : Call}
    {id : String} {serial other : Nat} (was : work.calls[m]? = some first)
    (wasToo : work.calls[n]? = some second) (owns : first.abandoned? = some (id, serial))
    (ownsToo : second.abandoned? = some (id, other)) : m = n := by
  have same := (coherent.registered was owns).symm.trans (coherent.registered wasToo ownsToo)
  cases same
  exact coherent.sole was wasToo owns ownsToo

/-- A lookup waits for nobody but a lookup of its own id. -/
theorem Coherent.eq_of_awaited (coherent : work.Coherent) {m n tries serial : Nat} {owner : Call}
    {id other : String} (was : work.calls[m]? = some owner)
    (owns : owner.abandoned? = some (other, serial))
    (waits : work.calls[n]? = some (.lookup id (.waiting tries serial))) : id = other :=
  coherent.injective (coherent.awaited waits) (coherent.registered was owns)

/-- The step of a call on another id changes no lookup of an id. -/
theorem Coherent.lookup_step_iff (coherent : work.Coherent) (kinds : Kinds) {k n : Nat}
    {call : Call} {id key : String} {phase : Lookup} (acting : work.calls[k]? = some call)
    (subject : call.subject? = some key) (distinct : id ≠ key) :
    (work.next kinds (.step k)).calls[n]? = some (.lookup id phase) ↔
      work.calls[n]? = some (.lookup id phase) := by
  by_cases own : k = n
  · subst own
    rw [calls_step_self acting, acting]
    constructor
    · intro becomes
      have same := Call.subject?_step kinds call work.store work.cache
      rw [Option.some.inj becomes, subject] at same
      cases same
      exact (distinct rfl).elim
    · intro was
      cases was
      cases subject
      exact (distinct rfl).elim
  cases ends : call.published? with
  | none => rw [calls_step_of_ne acting ends own]
  | some told =>
      obtain ⟨serial, outcome⟩ := told
      obtain ⟨other, tries, rfl⟩ := Call.eq_of_published ends
      cases subject
      rw [calls_step_deliver acting ends own, Option.map_eq_some_iff]
      constructor
      · rintro ⟨before, was, delivered⟩
        rcases Call.deliver_eq serial outcome before with kept | ⟨subject, left, rfl, told⟩
        · rwa [← delivered, kept]
        · have same := coherent.eq_of_awaited acting rfl was
          rw [told] at delivered
          cases delivered
          exact (distinct same).elim
      · intro was
        refine ⟨_, was, ?_⟩
        rcases Call.deliver_eq serial outcome (.lookup id phase) with kept | ⟨_, left, same, _⟩
        · exact kept
        · cases same
          exact (distinct (coherent.eq_of_awaited acting rfl was)).elim

end Workload

namespace History

variable {history : History} {time since bound n : Nat} {id : String}

/-- One call takes a step at a time. -/
theorem Steps.unique {m : Nat} {call other : Call} (steps : history.Steps time n call)
    (again : history.Steps time m other) : n = m ∧ call = other := by
  cases steps.1.symm.trans again.1
  exact ⟨rfl, Option.some.inj (steps.2.symm.trans again.2)⟩

/-- From one time to another only lookups touch an id, and they begin with nothing in their hands:
neither is the id held or loaded at first, nor does a lookup of it that is still at work bring an
instance along. -/
structure Untouched (history : History) (id : String) (since bound : Nat) : Prop where
  vacant : (history.state since).cache.get? id = none
  idle : (history.state since).cache.loading? id = none
  emptyHanded : ∀ {n : Nat} {phase made},
    (history.state since).calls[n]? = some (.lookup id phase) →
    (Call.lookup id phase).instance? = some made → phase = .answered (.ok made)
  roomy : history.maxBytes ≠ some 0
  lookupsOnly : ∀ {time n call}, since ≤ time → time < bound → history.Steps time n call →
    ¬ call.Touches id
  /-- No mark of an id comes to count for all ids. -/
  apart : ∀ {time}, since ≤ time → time < bound →
    (history.state (time + 1)).cache.marks.all = (history.state time).cache.marks.all
  lasting : ∀ {time}, since ≤ time → time < bound → history.events[time]? ≠ some (.expire id)
  attended : ∀ {time n : Nat} {call serial}, since ≤ time → time < bound →
    history.events[time]? = some (.cancel n) → (history.state time).calls[n]? = some call →
    call.abandoned? ≠ some (id, serial)

namespace Untouched

variable (untouched : history.Untouched id since bound) (after : since ≤ time)
  (before : time < bound)

include untouched

/-- What was read since the beginning is not stale. -/
theorem invalidatedSince_eq_false {stamp : Nat} (after : since ≤ time) (upTo : time ≤ bound)
    (noted : (history.state since).cache.marks.clock ≤ stamp) :
    (history.state time).cache.marks.invalidatedSince id stamp = false := by
  induction time, after using Nat.le_induction with
  | base =>
      by_contra invalidated
      have earlier := (history.marks_wellFormed since).lt_clock (Bool.eq_true_of_not_eq_false
        invalidated)
      omega
  | succ time after ih =>
      rw [← ih (Nat.le_of_succ_le upTo)]
      have apart := untouched.apart after upTo
      have move := history.cacheMove_succ time
      generalize (history.state (time + 1)).cache = next at move apart ⊢
      cases move with
      | stepped steps =>
          exact (Call.effect_step ..).invalidatedSince_eq (history.marks_wellFormed time)
            (untouched.lookupsOnly after upTo steps) apart stamp
      | _ => rfl

/-- An instance that was read since is not stale while its id is untouched. -/
theorem isStale_eq_false {made : Instance} (after : since ≤ time) (upTo : time ≤ bound)
    (subject : made.id = id) (noted : (history.state since).cache.marks.clock ≤ made.stamp) :
    (history.state time).cache.isStale made = false := by
  subst subject
  exact untouched.invalidatedSince_eq_false after upTo noted

include after before

/-- Only lookups of an id carry out loads of it. -/
theorem eq_loading {call : Call} {serial : Nat} {load : Load} (steps : history.Steps time n call)
    (carries : call.load? = some (id, serial, load)) :
    ∃ tries, call = .lookup id (.loading tries serial load) :=
  Call.eq_loading_of_load carries (untouched.lookupsOnly after before steps)

/-- Only a lookup of the id that puts an instance there or drops it changes what is held. -/
theorem get?_succ (unmoved : ∀ n phase, history.Steps time n (.lookup id phase) →
      (Call.lookup id phase).installs? = none ∧ (Call.lookup id phase).discards? = none) :
    (history.state (time + 1)).cache.get? id = (history.state time).cache.get? id := by
  have move := history.cacheMove_succ time
  generalize (history.state (time + 1)).cache = next at move ⊢
  cases move with
  | @stepped k call steps =>
      have quiet := untouched.lookupsOnly after before steps
      -- Whoever has an instance of the id in hand was asked for it, and looks it up.
      have looksUp {made : Instance} (holds : call.instance? = some made) (same : id = made.id) :
          ∃ phase, call = .lookup id phase := by
        refine Call.eq_lookup_of_subject ?_ quiet
        rw [same]
        exact ((history.traced time).inHand steps.2 holds).1
      refine (Call.effect_step ..).get?_eq quiet ?_ ?_
      · intro made installing same
        obtain ⟨phase, rfl⟩ := looksUp (Call.instance?_of_installs installing) same
        cases (unmoved k phase steps).1.symm.trans installing
      · intro made discarding same
        obtain ⟨phase, rfl⟩ := looksUp (Call.instance?_of_discards discarding) same
        cases (unmoved k phase steps).2.symm.trans discarding
  | @expired key expires =>
      have distinct : id ≠ key := by
        rintro rfl
        exact untouched.lasting after before expires
      exact PartitionCache.get?_remove_of_ne distinct _
  | _ => rfl

/-- A load of the id is under way until the lookup that carries it out tells of its outcome. -/
theorem loading?_succ {serial : Nat}
    (runs : (history.state time).cache.loading? id = some serial)
    (untold : ∀ n tries number outcome,
      ¬ history.Steps time n (.lookup id (.publishing tries number outcome))) :
    (history.state (time + 1)).cache.loading? id = some serial := by
  cases happens : history.events[time]? with
  | none => rwa [state_succ_of_end happens]
  | some event =>
      rw [state_succ_of_event happens]
      rcases Workload.loading?_next_keeps history.kinds event runs with kept | ⟨number, ends⟩
      · exact kept
      · exfalso
        cases ends with
        | told was owns ends =>
            obtain ⟨key, tries, rfl⟩ := Call.eq_of_published ends
            cases owns
            exact untold _ _ _ _ ⟨happens, was⟩
        | dropped was owns => exact untouched.attended after before happens was owns

end Untouched

/-! ## Calls on other ids -/

/-- What a step of a call on another id leaves alone: the instance of an id, the load of it and
whoever looks it up. It neither reads the store for the id nor makes an instance of it. -/
structure KeepsOut (history : History) (time : Nat) (id : String) : Prop where
  held : (history.state (time + 1)).cache.get? id = (history.state time).cache.get? id
  running : (history.state (time + 1)).cache.loading? id = (history.state time).cache.loading? id
  lookups : ∀ (n : Nat) phase, (history.state (time + 1)).calls[n]? = some (.lookup id phase) ↔
    (history.state time).calls[n]? = some (.lookup id phase)
  loadless : ∀ n call serial load, history.Steps time n call →
    call.load? ≠ some (id, serial, load)

/-- A step about one id keeps out of the matters of another. -/
theorem Steps.keepsOut {call : Call} {key : String} (steps : history.Steps time n call)
    (subject : call.subject? = some key) (distinct : id ≠ key) : history.KeepsOut time id where
  held := by
    have own {made : Instance} (holds : call.instance? = some made) : id ≠ made.id := by
      have same := ((history.traced time).inHand steps.2 holds).1
      rw [subject] at same
      cases same
      exact distinct
    rw [steps.cache_succ]
    exact (Call.effect_step ..).get?_eq (Call.not_touches_of_subject subject distinct)
      (fun _ installing => own (Call.instance?_of_installs installing))
      (fun _ discarding => own (Call.instance?_of_discards discarding))
  running := by
    rw [steps.cache_succ]
    exact (Call.effect_step ..).loading?_of_ne subject distinct
  lookups m phase := by
    rw [steps.next]
    exact (history.coherent time).lookup_step_iff history.kinds steps.2 subject distinct
  loadless m other serial load again carries := by
    obtain ⟨_, rfl⟩ := steps.unique again
    cases subject.symm.trans (Call.subject?_of_load carries)
    exact distinct rfl

end History

end QueryRewriting

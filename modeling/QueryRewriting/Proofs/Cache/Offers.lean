import QueryRewriting.Proofs.Cache.Continuation

/-! # Instances on offer

An instance is on offer while the cache holds it, and before that while a call is about to put it
into the cache or to hand it to those who wait. What is on offer was so before, or has just been
read; and while it is not stale, it can be handed out to a lookup that has yet to begin.
-/

namespace QueryRewriting

/-- An outcome that has a value is that value. -/
theorem ok_of_toOption {ε α : Type} {outcome : Except ε α} {value : α}
    (present : outcome.toOption = some value) : outcome = .ok value := by
  cases outcome with
  | error fault => cases present
  | ok found =>
      cases present
      rfl

namespace Call

variable {kinds : Kinds} {store : Store} {cache : PartitionCache} {call : Call} {made : Instance}

/-- The instance that a call is about to put into the cache or to hand to those who wait for it. -/
def brings? (kinds : Kinds) : Call → Option Instance
  | .lookup id (.loading _ serial (.replied stamp reply)) =>
    (Instance.compile kinds serial id stamp reply).toOption
  | .lookup _ (.landing _ made) => some made
  | .lookup _ (.publishing _ _ (.ok made)) => some made
  | .reload id (.loading serial (.replied stamp reply)) =>
    (Instance.compile kinds serial id stamp reply).toOption
  | .reload _ (.comparing made) => some made
  | .reload _ (.installing made) => some made
  | _ => none

/-- A call that installs an instance brings it. -/
theorem brings?_of_installs (installing : call.installs? = some made) :
    call.brings? kinds = some made := by
  unfold installs? at installing
  split at installing
  · exact installing
  · exact installing
  · cases installing

/-- A call brings the instance that its reply is made into. -/
theorem brings?_of_compile {id : String} {serial stamp : Nat}
    {reply : Except StoreError (Option Definition)}
    (carries : call.load? = some (id, serial, .replied stamp reply))
    (success : Instance.compile kinds serial id stamp reply = .ok made) :
    call.brings? kinds = some made := by
  unfold load? at carries
  split at carries
  · cases carries
    simp [brings?, success, Except.toOption]
  · cases carries
    simp [brings?, success, Except.toOption]
  · cases carries

/-- A call that brings an instance did so before, or has just read its definition. -/
theorem brings?_of_step (brings : (call.step kinds store cache).1.brings? kinds = some made) :
    call.brings? kinds = some made ∨
      ∃ id serial stamp, call.load? = some (id, serial, .reading stamp) ∧
        Instance.compile kinds serial id stamp (store.find? id) = .ok made := by
  have moves := transition_step kinds call store cache
  generalize call.step kinds store cache = result at moves brings
  cases moves with
  | lookup moves =>
      cases moves with
      | moved _ moves =>
          cases moves with
          | told => exact Or.inr ⟨_, _, _, rfl, ok_of_toOption brings⟩
          | _ => cases brings
      | compiled success =>
          cases brings
          exact Or.inl (brings?_of_compile rfl success)
      | landed => exact Or.inl brings
      | _ => cases brings
  | reload moves =>
      cases moves with
      | moved _ moves =>
          cases moves with
          | told => exact Or.inr ⟨_, _, _, rfl, ok_of_toOption brings⟩
          | _ => cases brings
      | compiled success =>
          cases brings
          exact Or.inl (brings?_of_compile rfl success)
      | passed => exact Or.inl brings
      | _ => cases brings
  | _ => cases brings

end Call

namespace Workload

variable {kinds : Kinds} {work : Workload} {made : Instance}

/-- Some call brings an instance. -/
def Brings (kinds : Kinds) (work : Workload) (made : Instance) : Prop :=
  ∃ (n : Nat) (call : Call), work.calls[n]? = some call ∧ call.brings? kinds = some made

/-- The cache holds an instance, or a call is about to bring it. -/
def Offers (kinds : Kinds) (work : Workload) (made : Instance) : Prop :=
  work.cache.get? made.id = some made ∨ work.Brings kinds made

/-- An instance is on offer, or in hand of a call that came after so many others. -/
def Reaches (kinds : Kinds) (count : Nat) (work : Workload) (made : Instance) : Prop :=
  work.Offers kinds made ∨
    ∃ (n : Nat) (call : Call),
      count ≤ n ∧ work.calls[n]? = some call ∧ call.instance? = some made

end Workload

namespace History

variable {history : History} {time count : Nat} {made : Instance}

/-- An instance that is brought after an event was brought before, or has just been read. -/
theorem brings?_of_next {n : Nat} {after : Call}
    (found : (history.state (time + 1)).calls[n]? = some after)
    (brings : after.brings? history.kinds = some made) :
    (history.state time).Brings history.kinds made ∨ history.ReadFor time made := by
  cases callMove_succ found with
  | kept was => exact Or.inl ⟨n, after, was, brings⟩
  | @begun request => cases request <;> cases brings
  | @stepped call steps =>
      rcases Call.brings?_of_step brings with before | ⟨id, serial, stamp, carries, success⟩
      · exact Or.inl ⟨n, call, steps.2, before⟩
      · obtain ⟨rfl, rfl, rfl, present, loaded⟩ := Instance.of_compile success
        exact Or.inr ⟨⟨n, call, steps, carries⟩, present, loaded⟩
  | @received _ _ _ outcome => cases outcome <;> cases brings
  | dropped => cases brings
  | released => cases brings

/-- What is on offer was so before, or has just been read. -/
theorem offers_of_next (offers : (history.state (time + 1)).Offers history.kinds made) :
    (history.state time).Offers history.kinds made ∨ history.ReadFor time made := by
  rcases offers with held | ⟨n, call, found, brings⟩
  · refine Or.inl ?_
    rcases held_succ held with before | ⟨⟨k, call, steps, installing⟩, _⟩
    · exact Or.inl before
    · exact Or.inr ⟨k, call, steps.2, Call.brings?_of_installs installing⟩
  · rcases brings?_of_next found brings with before | reads
    · exact Or.inl (Or.inr before)
    · exact Or.inr reads

/-- Calls that begin late get their instances from what is on offer. -/
theorem reaches_of_next (reaches : (history.state (time + 1)).Reaches history.kinds count made) :
    (history.state time).Reaches history.kinds count made ∨ history.ReadFor time made := by
  rcases reaches with offers | ⟨n, after, late, found, holds⟩
  · rcases offers_of_next offers with before | reads
    · exact Or.inl (Or.inl before)
    · exact Or.inr reads
  · refine Or.inl ?_
    cases callMove_succ found with
    | kept was => exact Or.inr ⟨n, after, late, was, holds⟩
    | @begun request => cases request <;> cases holds
    | @stepped call steps =>
        cases Call.instanceMove_step holds with
        | kept before => exact Or.inr ⟨n, call, late, steps.2, before⟩
        | compiled id serial stamp reply carries success =>
            exact Or.inl (Or.inr ⟨n, call, steps.2, Call.brings?_of_compile carries success⟩)
        | found id tries seeking held =>
            obtain ⟨rfl, _⟩ := (history.traced time).held held
            exact Or.inl (Or.inl held)
    | @received k _ _ outcome _ _ steps =>
        cases outcome with
        | error fault => cases holds
        | ok told =>
            cases holds
            exact Or.inl (Or.inr ⟨k, _, steps.2, rfl⟩)
    | dropped => cases holds
    | released => cases holds

end History

/-! ## Runs that hand an instance out -/

namespace Workload

variable {kinds : Kinds} {work : Workload} {made : Instance} {count k tries serial : Nat}

/-- More events can lead a call that came after so many others to where it finds that its instance
is not stale. -/
def Admits (kinds : Kinds) (count : Nat) (work : Workload) (made : Instance) : Prop :=
  ∃ events n tries, count ≤ n ∧
    (work.run kinds events).calls[n]? = some (.lookup made.id (.verifying tries made)) ∧
    (work.run kinds events).cache.isStale made = false

/-- What lets an instance in after more events lets it in. -/
theorem admits_of_run (events : List Event)
    (admits : (work.run kinds events).Admits kinds count made) :
    work.Admits kinds count made := by
  obtain ⟨more, reached⟩ := admits
  rw [← run_append] at reached
  exact ⟨events ++ more, reached⟩

theorem admits_of_next (event : Event) (admits : (work.next kinds event).Admits kinds count made) :
    work.Admits kinds count made :=
  admits_of_run [event] admits

/-- A lookup that is about to check an instance may hand it out. -/
theorem admits_of_verifying (late : count ≤ k)
    (was : work.calls[k]? = some (.lookup made.id (.verifying tries made)))
    (fresh : work.cache.isStale made = false) : work.Admits kinds count made :=
  ⟨[], k, tries, late, was, fresh⟩

/-! ### From the cache -/

/-- A lookup that finds an instance may hand it out. -/
theorem admits_of_seeking (late : count ≤ k)
    (was : work.calls[k]? = some (.lookup made.id (.seeking tries)))
    (held : work.cache.get? made.id = some made) (fresh : work.cache.isStale made = false) :
    work.Admits kinds count made := by
  have finds : (Call.lookup made.id (.seeking tries)).step kinds work.store work.cache =
      (.lookup made.id (.verifying tries made), work.store, work.cache) := by
    simp only [Call.step, Lookup.step, held]
  obtain ⟨verifies, kept⟩ := next_of_step was finds
  rw [← kept] at fresh
  exact admits_of_next (.step k) (admits_of_verifying late verifies fresh)

/-- An instance that the cache holds can be handed out to a lookup that has yet to begin. -/
theorem admits_of_held (early : count ≤ work.calls.length)
    (held : work.cache.get? made.id = some made) (fresh : work.cache.isStale made = false) :
    work.Admits kinds count made :=
  admits_of_next (.begin (.lookup made.id))
    (admits_of_seeking early List.getElem?_concat_length held fresh)

/-! ### From a reload -/

/-- So can one that a reload is about to install, when it has done so. -/
theorem admits_of_installing {id : String} (early : count ≤ work.calls.length)
    (room : work.cache.maxBytes ≠ some 0)
    (was : work.calls[k]? = some (.reload id (.installing made)))
    (fresh : work.cache.isStale made = false) : work.Admits kinds count made := by
  have installs : (work.next kinds (.step k)).cache = work.cache.insert made := cache_stepCall was
  refine admits_of_next (.step k) (admits_of_held (early.trans (length_calls_next ..)) ?_ ?_)
  · rw [installs]
    exact PartitionCache.get?_insert_self room made
  · rwa [installs, PartitionCache.isStale_insert]

/-- So can one that a reload is about to hold against the marks. -/
theorem admits_of_comparing {id : String} (early : count ≤ work.calls.length)
    (room : work.cache.maxBytes ≠ some 0)
    (was : work.calls[k]? = some (.reload id (.comparing made)))
    (fresh : work.cache.isStale made = false) : work.Admits kinds count made := by
  have passes : (Call.reload id (.comparing made)).step kinds work.store work.cache =
      (.reload id (.installing made), work.store, work.cache) := by
    simp [Call.step, Reload.step, fresh]
  obtain ⟨installs, kept⟩ := next_of_step was passes
  rw [← kept] at room fresh
  exact admits_of_next (.step k)
    (admits_of_installing (early.trans (length_calls_next ..)) room installs fresh)

/-- So can one that a reload has just got the definition of. -/
theorem admits_of_reloaded {id : String} {stamp : Nat}
    {reply : Except StoreError (Option Definition)} (early : count ≤ work.calls.length)
    (room : work.cache.maxBytes ≠ some 0)
    (was : work.calls[k]? = some (.reload id (.loading serial (.replied stamp reply))))
    (success : Instance.compile kinds serial id stamp reply = .ok made)
    (fresh : work.cache.isStale made = false) : work.Admits kinds count made := by
  have compiles : (Call.reload id (.loading serial (.replied stamp reply))).step kinds work.store
      work.cache = (.reload id (.comparing made), work.store, work.cache) := by
    simp only [Call.step, Reload.step, success, Reload.receive]
  obtain ⟨compares, kept⟩ := next_of_step was compiles
  rw [← kept] at room fresh
  exact admits_of_next (.step k)
    (admits_of_comparing (early.trans (length_calls_next ..)) room compares fresh)

/-! ### From a lookup -/

/-- If the instance of an id expires just before a lookup ends its load, whoever begins then waits
for that load and is handed its outcome. -/
theorem admits_of_publishing (coherent : work.Coherent) (early : count ≤ work.calls.length)
    (was : work.calls[k]? = some (.lookup made.id (.publishing tries serial (.ok made))))
    (fresh : work.cache.isStale made = false) : work.Admits kinds count made := by
  have inside : k < work.calls.length := (List.getElem?_eq_some_iff.mp was).1
  let joined := work.run kinds (rejoin made.id work)
  obtain ⟨waits, publishes, kept⟩ := run_rejoin kinds coherent was rfl
  have told : (joined.next kinds (.step k)).calls[work.calls.length]? =
      some (.lookup made.id (.verifying Lookup.maxTries made)) := by
    rw [calls_step_deliver publishes rfl inside.ne, waits]
    simp [Call.deliver, Lookup.receive]
  have ended : (joined.next kinds (.step k)).cache = joined.cache.endLoad made.id :=
    cache_stepCall publishes
  refine admits_of_run (rejoin made.id work) (admits_of_next (.step k)
    (admits_of_verifying early told ?_))
  rw [ended, kept]
  exact fresh

/-- So can one that a lookup is about to put into the cache. -/
theorem admits_of_landing (coherent : work.Coherent) (early : count ≤ work.calls.length)
    (was : work.calls[k]? = some (.lookup made.id (.landing tries made)))
    (fresh : work.cache.isStale made = false) : work.Admits kinds count made := by
  have publishes : (work.next kinds (.step k)).calls[k]? = _ := calls_step_self was
  have lands : (work.next kinds (.step k)).cache = work.cache.insert made := cache_stepCall was
  refine admits_of_next (.step k) (admits_of_publishing (coherent.next kinds _)
    (early.trans (length_calls_next ..)) publishes ?_)
  rwa [lands, PartitionCache.isStale_insert]

/-- So can one that a lookup has just got the definition of. -/
theorem admits_of_loaded {stamp : Nat} {reply : Except StoreError (Option Definition)}
    (coherent : work.Coherent) (early : count ≤ work.calls.length)
    (was : work.calls[k]? = some (.lookup made.id (.loading tries serial (.replied stamp reply))))
    (success : Instance.compile kinds serial made.id stamp reply = .ok made)
    (fresh : work.cache.isStale made = false) : work.Admits kinds count made := by
  have compiles : (Call.lookup made.id (.loading tries serial (.replied stamp reply))).step kinds
      work.store work.cache = (.lookup made.id (.landing tries made), work.store, work.cache) := by
    simp only [Call.step, Lookup.step, success]
  obtain ⟨lands, kept⟩ := next_of_step was compiles
  rw [← kept] at fresh
  exact admits_of_next (.step k) (admits_of_landing (coherent.next kinds _)
    (early.trans (length_calls_next ..)) lands fresh)

end Workload

/-- Whether a reload is about to renew what it has found. -/
def Reload.renews : Reload → Bool
  | .loading _ _ => true
  | .comparing _ => true
  | .installing _ => true
  | _ => false

/-- A reload renews only what it has found in the cache. -/
theorem Reload.renews_of_step {kinds : Kinds} {id : String} {reload : Reload} {store : Store}
    {cache : PartitionCache} (renews : (reload.step kinds id store cache).1.renews = true) :
    reload.renews = true ∨ cache.contains id = true := by
  have moves := transition_step kinds id reload store cache
  generalize reload.step kinds id store cache = result at moves renews
  cases moves with
  | begun held => exact Or.inr held
  | moved => exact Or.inl rfl
  | compiled => exact Or.inl rfl
  | passed => exact Or.inl rfl
  | _ => cases renews

namespace History

variable {history : History} {time : Nat} {made : Instance}

/-- A reload only renews what a cache with some room has held. -/
theorem room_of_renews {n : Nat} {id : String} {reload : Reload}
    (found : (history.state time).calls[n]? = some (.reload id reload))
    (renews : reload.renews = true) : history.maxBytes ≠ some 0 := by
  induction time generalizing reload with
  | zero => cases found
  | succ time ih =>
      have move := callMove_succ found
      generalize after_eq : Call.reload id reload = after at move
      cases move with
      | kept was =>
          subst after_eq
          exact ih was renews
      | @begun request =>
          cases request <;> cases after_eq
          cases renews
      | @stepped call steps =>
          cases call with
          | reload subject phase =>
              cases after_eq
              rcases Reload.renews_of_step renews with before | held
              · exact ih steps.2 before
              · obtain ⟨made, held⟩ := Option.isSome_iff_exists.mp held
                exact history.room_of_held held
          | _ => cases after_eq
      | @received _ _ _ outcome => cases outcome <;> cases after_eq
      | dropped => cases after_eq
      | released => cases after_eq

/-- What is on offer and not stale can be handed out to a lookup that has yet to begin. -/
theorem admits_of_offers (offers : (history.state time).Offers history.kinds made)
    (fresh : (history.state time).cache.isStale made = false) :
    (history.state time).Admits history.kinds (history.state time).calls.length made := by
  have coherent := history.coherent time
  have room {n : Nat} {id : String} {reload : Reload}
      (found : (history.state time).calls[n]? = some (.reload id reload))
      (renews : reload.renews = true) : (history.state time).cache.maxBytes ≠ some 0 := by
    rw [history.maxBytes_state time]
    exact history.room_of_renews found renews
  rcases offers with held | ⟨k, call, was, brings⟩
  · exact Workload.admits_of_held le_rfl held fresh
  · have inHand (holds : call.instance? = some made) : call.subject? = some made.id :=
      ((history.traced time).inHand was holds).1
    unfold Call.brings? at brings
    split at brings
    · have success := ok_of_toOption brings
      obtain ⟨_, rfl, _⟩ := Instance.of_compile success
      exact Workload.admits_of_loaded coherent le_rfl was success fresh
    · cases brings
      cases inHand rfl
      exact Workload.admits_of_landing coherent le_rfl was fresh
    · cases brings
      cases inHand rfl
      exact Workload.admits_of_publishing coherent le_rfl was fresh
    · exact Workload.admits_of_reloaded le_rfl (room was rfl) was (ok_of_toOption brings) fresh
    · cases brings
      exact Workload.admits_of_comparing le_rfl (room was rfl) was fresh
    · cases brings
      exact Workload.admits_of_installing le_rfl (room was rfl) was fresh
    · cases brings

end History

end QueryRewriting

import QueryRewriting.Proofs.Cache.Freshness
import QueryRewriting.Proofs.Cache.Offers

/-! # How long a reload lasts

A reload that finds an instance to renew leaves no mark. What it installs is the newest for lookups
that begin later, unless another call still brought an instance that had been read before the reload
began: such an instance can take the place of the new one, or reach a lookup that waits for it.
-/

namespace QueryRewriting

/-- The clock of a load was noted no earlier than a given time. -/
def Load.NotedFrom (clock : Nat) : Load → Prop
  | .starting => True
  | .asking stamp => clock ≤ stamp
  | .reading stamp => clock ≤ stamp
  | .replied stamp _ => clock ≤ stamp

namespace History

variable {history : History} {time since r : Nat} {id : String} {made : Instance}

/-- An instance was read before a time. -/
def ReadBefore (history : History) (since : Nat) (made : Instance) : Prop :=
  ∃ read < since, history.ReadFor read made

/-- However a history goes on, an instance that is handed out to a lookup which has yet to begin was
read no earlier than at a time. -/
def FreshFrom (history : History) (since : Nat) (id : String) : Prop :=
  ∀ later check n made, history.last.calls.length ≤ n →
    (history.after later).HandsOut check n id made →
    ∃ read, since ≤ read ∧ read < check ∧ (history.after later).ReadFor read made

/-! ## What a reload has done so far -/

/-- A reload has put an instance of its own into the cache. -/
def Renewed (history : History) (since r time : Nat) (id : String) : Prop :=
  ∃ place own, since ≤ place ∧ place < time ∧ history.Steps place r (.reload id (.installing own)) ∧
    (history.state since).cache.nextSerial ≤ own.serial

/-- All that was read before a time counts as invalidated. -/
def Settled (history : History) (since time : Nat) (id : String) : Prop :=
  (history.state time).cache.marks.invalidatedSince id
    (history.state since).cache.marks.clock = true

/-- What is known of a reload that began after a time, by how far it has come. -/
def Renewing (history : History) (since r time : Nat) (id : String) : Reload → Prop
  | .checking => True
  | .marking => True
  | .loading serial load =>
    (history.state since).cache.nextSerial ≤ serial ∧
      load.NotedFrom (history.state since).cache.marks.clock
  | .comparing made =>
    (history.state since).cache.nextSerial ≤ made.serial ∧
      (history.state since).cache.marks.clock ≤ made.stamp
  | .installing made => (history.state since).cache.nextSerial ≤ made.serial
  | .rechecking _ => history.Renewed since r time id
  | .retracting _ => history.Renewed since r time id
  | .forgetting => True
  | .removing => history.Settled since time id
  | .answered (.ok _) => history.Renewed since r time id ∨ history.Settled since time id
  | .answered (.error _) => True

theorem Renewed.mono {later : Nat} (renewed : history.Renewed since r time id)
    (order : time ≤ later) : history.Renewed since r later id := by
  obtain ⟨place, own, after, before, steps, numbered⟩ := renewed
  exact ⟨place, own, after, before.trans_le order, steps, numbered⟩

theorem Settled.mono {later : Nat} (settled : history.Settled since time id)
    (order : time ≤ later) : history.Settled since later id :=
  (history.marks_precedes order).keeps _ _ settled

/-- A reload that has come so far has come so far later on, unless it takes a step. -/
theorem Renewing.mono {later : Nat} {reload : Reload}
    (renewing : history.Renewing since r time id reload) (order : time ≤ later) :
    history.Renewing since r later id reload := by
  cases reload with
  | rechecking => exact Renewed.mono renewing order
  | retracting => exact Renewed.mono renewing order
  | removing => exact Settled.mono renewing order
  | answered outcome =>
      cases outcome with
      | error fault => trivial
      | ok held => exact Or.imp (·.mono order) (·.mono order) renewing
  | _ => exact renewing

/-- A load keeps the time that it has noted, or notes one that is not earlier. -/
theorem notedFrom_step {clock now : Nat} {load : Load} (noted : load.NotedFrom clock)
    (order : clock ≤ now) (id : String) (store : Store) :
    (load.step id now store).1.NotedFrom clock := by
  cases load with
  | starting => exact order
  | asking stamp =>
      simp only [Load.step]
      split <;> exact noted
  | reading stamp => exact noted
  | replied stamp reply => exact noted

/-- One step of the reload. -/
theorem Renewing.step {reload : Reload} (order : since ≤ time)
    (renewing : history.Renewing since r time id reload)
    (steps : history.Steps time r (.reload id reload)) :
    history.Renewing since r (time + 1) id (reload.step history.kinds id
      (history.state time).store (history.state time).cache).1 := by
  have clock := (history.marks_precedes order).clock_le
  have serials := history.nextSerial_le order
  have marked (marking : (Call.reload id reload).marking? = some (some id)) :
      history.Settled since (time + 1) id :=
    Marks.invalidatedSince ⟨r, _, steps, Or.inl marking⟩ clock (Nat.lt_succ_self time)
  have moves := Reload.transition_step history.kinds id reload (history.state time).store
    (history.state time).cache
  generalize reload.step history.kinds id (history.state time).store (history.state time).cache =
    result at moves ⊢
  cases moves with
  | begun => exact ⟨serials, trivial⟩
  | missed => trivial
  | marked => exact Or.inr (marked rfl)
  | moved _ moves =>
      obtain ⟨numbered, noted⟩ := renewing
      refine ⟨numbered, ?_⟩
      rw [moves.eq_step]
      exact notedFrom_step noted clock id (history.state time).store
  | compiled success =>
      obtain ⟨rfl, _, rfl, _⟩ := Instance.of_compile success
      exact renewing
  | vanished => trivial
  | failed => trivial
  | @outdated built stale =>
      -- What is stale at once was invalidated after the reload had begun.
      have inHand :=
        (history.traced time).inHand steps.2 (show Call.instance? _ = some built from rfl)
      cases inHand.1
      have settled : history.Settled since time built.id :=
        Marks.invalidatedSince_of_le renewing.2 stale
      exact Or.inr (settled.mono (Nat.le_succ time))
  | passed => exact renewing.1
  | @installed built => exact ⟨time, built, order, Nat.lt_succ_self time, steps, renewing⟩
  | confirmed => exact Or.inl (Renewed.mono renewing (Nat.le_succ time))
  | overtaken => exact Renewed.mono renewing (Nat.le_succ time)
  | retracted => exact Or.inl (Renewed.mono renewing (Nat.le_succ time))
  | forgotten => exact marked rfl
  | removed => exact Or.inr (Settled.mono renewing (Nat.le_succ time))
  | ended => exact renewing.mono (Nat.le_succ time)

/-- A reload that has begun after a time is what its steps have made of it since. -/
theorem renewing_of_found (unbegun : (history.state since).calls.length ≤ r)
    (order : since ≤ time) {reload : Reload}
    (found : (history.state time).calls[r]? = some (.reload id reload)) :
    history.Renewing since r time id reload := by
  induction time, order using Nat.le_induction generalizing reload with
  | base =>
      have inside : r < (history.state since).calls.length := (List.getElem?_eq_some_iff.mp found).1
      omega
  | succ time order ih =>
      have move := callMove_succ found
      generalize after_eq : Call.reload id reload = after at move
      cases move with
      | kept was =>
          subst after_eq
          exact (ih was).mono (Nat.le_succ time)
      | @begun request =>
          cases request <;> cases after_eq
          trivial
      | @stepped call steps =>
          cases call with
          | reload subject phase =>
              cases after_eq
              exact (ih steps.2).step order steps
          | _ => cases after_eq
      | @received _ _ _ outcome => cases outcome <;> cases after_eq
      | dropped => cases after_eq
      | released => cases after_eq

/-! ## What a reload settles -/

/-- The clock and the numbers of loads do not run ahead of a reading. -/
theorem ReadBefore.known (old : history.ReadBefore since made) :
    made.serial < (history.state since).cache.nextSerial ∧
      made.stamp ≤ (history.state since).cache.marks.clock := by
  obtain ⟨read, before, reads⟩ := old
  obtain ⟨n, call, steps, carries⟩ := reads.reads
  constructor
  · exact ((history.coherent read).loadNumbered steps.2 carries).trans_le
      (history.nextSerial_le before.le)
  · exact Nat.le_trans ((history.traced read).loads steps.2 carries)
      (history.marks_precedes before.le).clock_le

/-- What was on offer at a time at which it had been read was on offer ever since. -/
theorem ReadBefore.offers_of_le (old : history.ReadBefore since made) {earlier : Nat}
    (after : since ≤ earlier) (order : earlier ≤ time)
    (offers : (history.state time).Offers history.kinds made) :
    (history.state earlier).Offers history.kinds made := by
  obtain ⟨read, before, reads⟩ := old
  induction time, order using Nat.le_induction with
  | base => exact offers
  | succ time order ih =>
      rcases offers_of_next offers with offered | again
      · exact ih offered
      · have same := reads.unique again
        omega

/-- If something older is on offer when the reload returns, then another call brought it in when the
reload had put its own instance into the cache. -/
theorem overtaken (unbegun : (history.state since).calls.length ≤ r) (order : since ≤ time)
    {held : Bool}
    (returned : (history.state time).calls[r]? = some (.reload made.id (.answered (.ok held))))
    (old : history.ReadBefore since made)
    (offers : (history.state time).Offers history.kinds made)
    (fresh : (history.state time).cache.isStale made = false) :
    ∃ place own, since ≤ place ∧ place < time ∧
      history.Steps place r (.reload made.id (.installing own)) ∧
      (history.state (place + 1)).Brings history.kinds made := by
  obtain ⟨numbered, stamped⟩ := old.known
  rcases renewing_of_found unbegun order returned with
    ⟨place, own, after, before, steps, newer⟩ | settled
  · refine ⟨place, own, after, before, steps, ?_⟩
    have room : (history.state place).cache.maxBytes ≠ some 0 := by
      rw [history.maxBytes_state place]
      exact history.room_of_renews steps.2 rfl
    have subject :=
      (history.traced place).inHand steps.2 (show Call.instance? _ = some own from rfl)
    rcases old.offers_of_le (Nat.le_succ_of_le after) before offers with kept | brought
    · -- The cache holds the reload's own instance, which is another one.
      have holds : (history.state (place + 1)).cache.get? own.id = some own := by
        rw [steps.cache_succ]
        exact PartitionCache.get?_insert_self room own
      have sameId : made.id = own.id := Option.some.inj subject.1
      rw [sameId] at kept
      cases kept.symm.trans holds
      omega
    · exact brought
  · have stale := Marks.invalidatedSince_of_le stamped settled
    exact (Bool.false_ne_true (fresh.symm.trans stale)).elim

/-! ## Later lookups -/

/-- A reading before the end of a history is one of the history, however it continues. -/
theorem ReadBefore.of_after {later : List Event} (order : since ≤ history.events.length)
    (old : (history.after later).ReadBefore since made) : history.ReadBefore since made := by
  obtain ⟨read, before, reads⟩ := old
  exact ⟨read, before, reads.of_after (before.trans_le order)⟩

/-- What is stale when it is on offer stays so for all that begin late. -/
theorem isStale_of_reaches {start count : Nat} (after : since ≤ start)
    (guarded : ∀ made, made.id = id → history.ReadBefore since made →
      (history.state start).Reaches history.kinds count made →
      (history.state start).cache.isStale made = true)
    (order : start ≤ time) (same : made.id = id) (old : history.ReadBefore since made)
    (reaches : (history.state time).Reaches history.kinds count made) :
    (history.state time).cache.isStale made = true := by
  induction time, order using Nat.le_induction with
  | base => exact guarded made same old reaches
  | succ time order ih =>
      rcases reaches_of_next reaches with before | reads
      · exact (history.marks_precedes (Nat.le_succ time)).keeps _ _ (ih before)
      · obtain ⟨read, early, readsToo⟩ := old
        have twice := reads.unique readsToo
        omega

/-- If whatever is on offer and not stale was read since, all that lookups hand out from now on was.
-/
theorem freshFrom_of_offers (order : since ≤ history.events.length)
    (renewed : ∀ made, made.id = id → history.last.Offers history.kinds made →
      history.last.cache.isStale made = false → ¬ history.ReadBefore since made) :
    history.FreshFrom since id := by
  intro later check n made late handsOut
  obtain ⟨tries, steps⟩ := handsOut.1
  have inHand :=
    ((history.after later).traced check).inHand steps.2 (show Call.instance? _ = some made from rfl)
  obtain ⟨read, before, reads, _⟩ := inHand.2
  refine ⟨read, ?_, before, reads⟩
  by_contra early
  have old : (history.after later).ReadBefore since made := ⟨read, Nat.lt_of_not_le early, reads⟩
  have same : made.id = id := (Option.some.inj inHand.1).symm
  have stateLast : (history.after later).state history.events.length = history.last :=
    state_after le_rfl
  have reached := (lt_of_late late steps.2).le
  have guarded (made : Instance) (same : made.id = id)
      (old : (history.after later).ReadBefore since made)
      (reaches : ((history.after later).state history.events.length).Reaches history.kinds
        history.last.calls.length made) :
      ((history.after later).state history.events.length).cache.isStale made = true := by
    rw [stateLast] at reaches ⊢
    rcases reaches with offers | ⟨k, call, beyond, found, _⟩
    · by_contra fresh
      exact renewed made same offers (Bool.eq_false_of_not_eq_true fresh) (old.of_after order)
    · have inside := (List.getElem?_eq_some_iff.mp found).1
      omega
  have stale := isStale_of_reaches order guarded reached same old
    (Or.inr ⟨n, _, late, steps.2, rfl⟩)
  exact Bool.false_ne_true (handsOut.fresh.symm.trans stale)

/-- If all that lookups hand out was read since, whatever is on offer and not stale was. -/
theorem FreshFrom.not_readBefore (lasting : history.FreshFrom since made.id)
    (offers : history.last.Offers history.kinds made)
    (fresh : history.last.cache.isStale made = false) : ¬ history.ReadBefore since made := by
  rintro ⟨read, before, reads⟩
  obtain ⟨events, n, tries, late, verifies, passes⟩ := admits_of_offers offers fresh
  let later := events ++ [.step n]
  have steps := steps_after_run history events verifies
  have answers : ((history.after later).state (history.events.length + events.length + 1)).calls[n]?
      = some (.lookup made.id (.answered (.ok made))) := by
    have passes : (history.last.run history.kinds events).cache.isStale made = false := passes
    rw [steps.call_succ, state_after_run]
    simp [Call.step, Lookup.step, passes]
  obtain ⟨again, after, _, readsAgain⟩ :=
    lasting later _ n made late ⟨⟨tries, steps⟩, answers⟩
  have same := readsAgain.unique (reads.after later)
  omega

/-- **A reload lasts unless it is overtaken.** Lookups that begin after a reload has returned are
handed out what was read since the reload began, exactly if nothing older is on offer when it
returns. Only a call that brought it in when the reload put its own instance into the cache can
leave it there. -/
theorem reload_lasts_iff {held : Bool} (unbegun : (history.state since).calls.length ≤ r)
    (returned : history.last.calls[r]? = some (.reload id (.answered (.ok held)))) :
    (history.FreshFrom since id ↔
      ∀ made, made.id = id → history.last.Offers history.kinds made →
        history.last.cache.isStale made = false → ¬ history.ReadBefore since made) ∧
    ∀ made, made.id = id → history.last.Offers history.kinds made →
      history.last.cache.isStale made = false → history.ReadBefore since made →
      ∃ place own, since ≤ place ∧ history.Steps place r (.reload id (.installing own)) ∧
        (history.state (place + 1)).Brings history.kinds made := by
  have order : since ≤ history.events.length := by
    by_contra beyond
    rw [state_of_length_le (Nat.le_of_not_le beyond)] at unbegun
    have inside := (List.getElem?_eq_some_iff.mp returned).1
    omega
  refine ⟨⟨?_, freshFrom_of_offers order⟩, ?_⟩
  · rintro lasting made rfl offers fresh
    exact lasting.not_readBefore offers fresh
  · rintro made rfl offers fresh old
    obtain ⟨place, own, after, _, steps, brings⟩ :=
      overtaken unbegun order returned old offers fresh
    exact ⟨place, own, after, steps, brings⟩

/-! ### Two reloads -/

/-- The instance that a load makes of the rewriter before its applications are logged. -/
def quietInstance (serial stamp : Nat) : Instance :=
  { loggedInstance serial stamp with definition := quietDefinition }

/-- An instance is looked up, and renewed once its definition has changed. -/
def loneReload : History :=
  { racedLookup with
    events := [.put quietDefinition, .begin (.lookup "r")] ++ List.replicate 8 (.step 0)
      ++ [.put loggedDefinition, .begin (.reload "r")] ++ List.replicate 8 (.step 1) }

/-- A reload has read the store when the definition changes. A second one begins and ends before the
first goes on. -/
def overlappingReloads : History :=
  { racedLookup with
    events := [.put quietDefinition, .begin (.lookup "r")] ++ List.replicate 8 (.step 0)
      ++ .begin (.reload "r") :: List.replicate 4 (.step 1)
      ++ [.put loggedDefinition, .begin (.reload "r")] ++ List.replicate 8 (.step 2) }

/-- The older definition is read again after the newer one was installed. -/
theorem quietInstance_read : overlappingReloads.ReadFor 14 (quietInstance 1 0) :=
  ⟨⟨1, _, ⟨rfl, rfl⟩, rfl⟩, rfl, rfl⟩

/-- A reload that no other overtakes lasts; one that is overtaken does not. -/
theorem loneReload_lasts :
    loneReload.FreshFrom 11 "r" ∧ ¬ overlappingReloads.FreshFrom 16 "r" := by
  constructor
  · have returned : loneReload.last.calls[1]? = some (.reload "r" (.answered (.ok true))) := rfl
    refine (reload_lasts_iff ?_ returned).1.mpr ?_
    · exact le_of_eq rfl
    · rintro made same (held | ⟨n, call, found, brings⟩) fresh ⟨read, before, reads⟩
      · rw [same] at held
        have newest : loneReload.last.cache.get? "r" = some (loggedInstance 1 0) := rfl
        cases held.symm.trans newest
        have renewed : loneReload.ReadFor 15 (loggedInstance 1 0) :=
          ⟨⟨1, _, ⟨rfl, rfl⟩, rfl⟩, rfl, rfl⟩
        have twice := reads.unique renewed
        omega
      · have calls : loneReload.last.calls =
            [.lookup "r" (.answered (.ok (quietInstance 0 0))),
              .reload "r" (.answered (.ok true))] := rfl
        have member := List.mem_of_getElem? (calls ▸ found)
        simp only [List.mem_cons, List.not_mem_nil, or_false] at member
        rcases member with rfl | rfl <;> cases brings
  · intro lasting
    have offers : overlappingReloads.last.Offers overlappingReloads.kinds (quietInstance 1 0) :=
      Or.inr ⟨1, _, rfl, rfl⟩
    have returned : overlappingReloads.last.calls[2]? =
        some (.reload "r" (.answered (.ok true))) := rfl
    exact (reload_lasts_iff (le_of_eq rfl) returned).1.mp lasting
      (quietInstance 1 0) rfl offers rfl ⟨14, by decide, quietInstance_read⟩

/-- The first of two overlapping reloads ends after the second, and a lookup follows. -/
def staleLookup : History :=
  overlappingReloads.after
    (List.replicate 4 (.step 1) ++ [.begin (.lookup "r"), .step 3, .step 3])

/-- The older of two overlapping reloads takes the place of the newer one. -/
theorem older_reload_overtakes :
    ¬ ∀ (history : History) (id : String) (since r back check n : Nat) (held : Bool)
      (made : Instance), history.events.all (Event.isOrdinary id) = true →
      (history.state since).calls.length ≤ r →
      (history.state back).calls[r]? = some (.reload id (.answered (.ok held))) →
      (history.state back).calls.length ≤ n → history.HandsOut check n id made →
      ∃ read, since ≤ read ∧ history.ReadFor read made := by
  intro fresh
  have verifies : (staleLookup.state 31).calls[3]? =
      some (.lookup "r" (.verifying 4 (quietInstance 1 0))) := rfl
  have answers : (staleLookup.state 32).calls[3]? =
      some (.lookup "r" (.answered (.ok (quietInstance 1 0)))) := rfl
  obtain ⟨read, after, reads⟩ := fresh staleLookup "r" 16 2 25 31 3 true (quietInstance 1 0) rfl
    (le_of_eq rfl) rfl (le_of_eq rfl) ⟨⟨4, rfl, verifies⟩, answers⟩
  have same := reads.unique (quietInstance_read.after _)
  omega

end History

end QueryRewriting

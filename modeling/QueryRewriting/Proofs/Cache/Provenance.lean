import QueryRewriting.Proofs.Cache.History

/-! # Where instances come from

Every instance that the cache holds or that a call has in hand was compiled from what the store held
when it was read for one load, and its stamp is not later than what the clock showed then. Loads
only go forward, so there is no second reading for the same load.
-/

namespace QueryRewriting

/-- How many of its steps a load has behind it. -/
def Load.stage : Load → Nat
  | .starting => 0
  | .asking _ => 1
  | .reading _ => 2
  | .replied _ _ => 3

namespace History

variable {history : History} {time : Nat}

/-- Before a time, the store was read for an instance at a time that its stamp is not later than. -/
def Sourced (history : History) (time : Nat) (made : Instance) : Prop :=
  ∃ read < time, history.ReadFor read made ∧
    made.stamp ≤ (history.state read).cache.marks.clock

theorem Sourced.mono {later : Nat} {made : Instance} (sourced : history.Sourced time made)
    (order : time ≤ later) : history.Sourced later made := by
  obtain ⟨read, before, reads, stamped⟩ := sourced
  exact ⟨read, before.trans_le order, reads, stamped⟩

/-- What is known of a load by how far it has come. -/
def LoadSourced (history : History) (time : Nat) (id : String) (serial : Nat) : Load → Prop
  | .starting => True
  | .asking stamp => stamp ≤ (history.state time).cache.marks.clock
  | .reading stamp => stamp ≤ (history.state time).cache.marks.clock
  | .replied stamp reply => ∀ made,
      Instance.compile history.kinds serial id stamp reply = .ok made → history.Sourced time made

/-- All instances, in the cache, in hand, or about to be compiled, have their source. -/
structure Traced (history : History) (time : Nat) : Prop where
  held : ∀ {key made}, (history.state time).cache.get? key = some made →
    made.id = key ∧ history.Sourced time made
  inHand : ∀ {n : Nat} {call : Call} {made}, (history.state time).calls[n]? = some call →
    call.instance? = some made → call.subject? = some made.id ∧ history.Sourced time made
  loads : ∀ {n : Nat} {call : Call} {id serial load}, (history.state time).calls[n]? = some call →
    call.load? = some (id, serial, load) → history.LoadSourced time id serial load

/-- A load that comes from a reading comes from it later on. -/
theorem LoadSourced.mono {later : Nat} {id : String} {serial : Nat} {load : Load}
    (sourced : history.LoadSourced time id serial load) (order : time ≤ later) :
    history.LoadSourced later id serial load := by
  have clock := (history.marks_precedes order).clock_le
  cases load with
  | starting => trivial
  | asking stamp => exact Nat.le_trans sourced clock
  | reading stamp => exact Nat.le_trans sourced clock
  | replied stamp reply => exact fun made success => (sourced made success).mono order

/-- The step that takes the store's reply is the reading that an instance comes from. -/
theorem LoadSourced.step {n : Nat} {call : Call} {id : String} {serial : Nat} {load : Load}
    (steps : history.Steps time n call) (carries : call.load? = some (id, serial, load))
    (unanswered : load.hasReply = false) (sourced : history.LoadSourced time id serial load) :
    history.LoadSourced (time + 1) id serial
      (load.step id (history.state time).cache.marks.clock (history.state time).store).1 := by
  have clock := (history.marks_precedes (Nat.le_succ time)).clock_le
  cases load with
  | starting => exact clock
  | asking stamp =>
      simp only [Load.step]
      split
      · exact Nat.le_trans sourced clock
      · exact fun made success => (Instance.compile_error _ _ _ _ _ made success).elim
  | reading stamp =>
      intro made success
      obtain ⟨rfl, rfl, rfl, found, loaded⟩ := Instance.of_compile success
      exact ⟨time, Nat.lt_succ_self time, ⟨⟨n, call, steps, carries⟩, found, loaded⟩, sourced⟩
  | replied stamp reply => cases unanswered

/-- After an event everything held still comes from a reading. -/
theorem Traced.held_succ (traced : history.Traced time) {key : String} {made : Instance}
    (held : (history.state (time + 1)).cache.get? key = some made) :
    made.id = key ∧ history.Sourced (time + 1) made := by
  rcases History.held_succ held with before | ⟨⟨n, call, steps, installing⟩, rfl, _⟩
  · obtain ⟨same, sourced⟩ := traced.held before
    exact ⟨same, sourced.mono (Nat.le_succ time)⟩
  · have inHand := traced.inHand steps.2 (Call.instance?_of_installs installing)
    exact ⟨rfl, inHand.2.mono (Nat.le_succ time)⟩

/-- After an event everything in hand still comes from a reading. -/
theorem Traced.inHand_succ (traced : history.Traced time) {n : Nat} {after : Call}
    {made : Instance} (found : (history.state (time + 1)).calls[n]? = some after)
    (holds : after.instance? = some made) :
    after.subject? = some made.id ∧ history.Sourced (time + 1) made := by
  have later {subject : Option String}
      (before : subject = some made.id ∧ history.Sourced time made) :
      subject = some made.id ∧ history.Sourced (time + 1) made :=
    ⟨before.1, before.2.mono (Nat.le_succ time)⟩
  cases callMove_succ found with
  | kept was => exact later (traced.inHand was holds)
  | @begun request => cases request <;> cases holds
  | @stepped call steps =>
      rw [Call.subject?_step]
      cases Call.instanceMove_step holds with
      | kept before => exact later (traced.inHand steps.2 before)
      | compiled id serial stamp reply carries success =>
          obtain ⟨_, rfl, _⟩ := Instance.of_compile success
          exact later ⟨Call.subject?_of_load carries, traced.loads steps.2 carries made success⟩
      | found id tries seeking held =>
          obtain ⟨rfl, sourced⟩ := traced.held held
          subst seeking
          exact later ⟨rfl, sourced⟩
  | @received k id serial outcome left tries steps =>
      cases outcome with
      | error fault => cases holds
      | ok told =>
          cases holds
          have own := traced.inHand steps.2 (show Call.instance? _ = some made from rfl)
          exact later own
  | dropped => cases holds
  | released => cases holds

/-- After an event every reply still comes from a reading. -/
theorem Traced.loads_succ (traced : history.Traced time) {n : Nat} {after : Call} {id : String}
    {serial : Nat} {load : Load} (found : (history.state (time + 1)).calls[n]? = some after)
    (carries : after.load? = some (id, serial, load)) :
    history.LoadSourced (time + 1) id serial load := by
  cases loadMove_succ found carries with
  | kept was carried => exact (traced.loads was carried).mono (Nat.le_succ time)
  | begun => trivial
  | moved steps carried unanswered =>
      exact (traced.loads steps.2 carried).step steps carried unanswered

/-- At every time all instances come from readings. -/
theorem traced (history : History) (time : Nat) : history.Traced time := by
  induction time with
  | zero => constructor <;> intros <;> simp_all [state, start, Workload.run]
  | succ time ih => exact ⟨ih.held_succ, ih.inHand_succ, ih.loads_succ⟩

/-! ## Loads only go forward -/

/-- At a time a load that has no reply yet takes a step. -/
def MovesLoad (history : History) (time serial : Nat) (load : Load) : Prop :=
  load.hasReply = false ∧
    ∃ n call id, history.Steps time n call ∧ call.load? = some (id, serial, load)

/-- A load goes forward with every step. -/
theorem stage_step {load : Load} (unanswered : load.hasReply = false) (id : String) (clock : Nat)
    (store : Store) : load.stage < (load.step id clock store).1.stage := by
  have moves := Load.transition_step unanswered id clock store
  generalize load.step id clock store = result at moves ⊢
  cases moves <;> simp [Load.stage]

/-- A load has left every stage from which it took a step. -/
theorem stage_lt {n : Nat} {call : Call} {id : String} {serial : Nat} {load : Load}
    (found : (history.state time).calls[n]? = some call)
    (carries : call.load? = some (id, serial, load)) {earlier : Nat} {before : Load}
    (order : earlier < time) (moves : history.MovesLoad earlier serial before) :
    before.stage < load.stage := by
  induction time generalizing n call load with
  | zero => cases order
  | succ time ih =>
      obtain ⟨unanswered, k, mover, subject, steps, moved⟩ := moves
      -- Whoever moves a load now is the one call that carries it.
      have current (same : earlier = time) {other : Call} {now : Load}
          (was : (history.state time).calls[n]? = some other)
          (carried : other.load? = some (id, serial, now)) :
          history.events[time]? = some (.step n) ∧ before = now := by
        subst same
        cases (history.coherent earlier).loadSole steps.2 was moved carried
        cases steps.2.symm.trans was
        cases moved.symm.trans carried
        exact ⟨steps.1, rfl⟩
      cases loadMove_succ found carries with
      | kept was carried unmoved =>
          rcases Nat.lt_succ_iff_lt_or_eq.mp order with past | now
          · exact ih was carried past
          · exact (unmoved (current now was carried).1).elim
      | begun numbered =>
          have known := (history.coherent earlier).loadNumbered steps.2 moved
          have grows := history.nextSerial_le (Nat.le_of_lt_succ order)
          omega
      | moved stepsNow carried unansweredNow =>
          have forward := stage_step unansweredNow id (history.state time).cache.marks.clock
            (history.state time).store
          rcases Nat.lt_succ_iff_lt_or_eq.mp order with past | now
          · exact (ih stepsNow.2 carried past).trans forward
          · rw [(current now stepsNow.2 carried).2]
            exact forward

/-- A load takes each of its steps once. -/
theorem movesLoad_unique {serial first second : Nat} {load other : Load}
    (moves : history.MovesLoad first serial load) (again : history.MovesLoad second serial other)
    (stages : load.stage = other.stage) : first = second := by
  obtain ⟨_, _, _, _, steps, carries⟩ := id moves
  obtain ⟨_, _, _, _, stepsAgain, carriesAgain⟩ := id again
  rcases Nat.lt_trichotomy first second with before | same | after
  · have forward := stage_lt stepsAgain.2 carriesAgain before moves
    omega
  · exact same
  · have forward := stage_lt steps.2 carries after again
    omega

/-- An instance comes from one reading of the store. -/
theorem ReadFor.unique {first second : Nat} {made : Instance} (reads : history.ReadFor first made)
    (again : history.ReadFor second made) : first = second := by
  obtain ⟨n, call, steps, carries⟩ := reads.reads
  obtain ⟨m, other, stepsAgain, carriesAgain⟩ := again.reads
  exact movesLoad_unique ⟨rfl, n, call, made.id, steps, carries⟩
    ⟨rfl, m, other, made.id, stepsAgain, carriesAgain⟩ rfl

end History

end QueryRewriting

import QueryRewriting.Proofs.Cache.Traffic

/-! # Journals of a node

A journal begins with a registry that serves no partition, and goes on by motions of any number of
calls that open and close partitions. Time counts motions: the motion at a time leads from the state
at that time to the next one. Only the step of a call changes which partitions are registered, and
it moves no other call. -/

namespace QueryRewriting

/-- A journal of one node: what it begins with, and all that happens, in order. -/
structure Journal where
  kinds : Kinds
  settings : CacheSettings
  motions : List Motion

namespace Journal

/-- The registry before the first motion. -/
def start (journal : Journal) : Traffic where
  registry := .empty journal.kinds journal.settings
  passages := []

/-- The registry and its calls at a time. -/
def state (journal : Journal) (time : Nat) : Traffic :=
  journal.start.run (journal.motions.take time)

/-- The registry at a time. -/
def registry (journal : Journal) (time : Nat) : Registry := (journal.state time).registry

/-- A call at a time. -/
def passage? (journal : Journal) (time n : Nat) : Option Passage :=
  (journal.state time).passages[n]?

/-- At a time a call begins to open a partition. -/
def Opens (journal : Journal) (time n : Nat) (partition : Partition) : Prop :=
  journal.motions[time]? = some (.opens partition) ∧ n = (journal.state time).passages.length

/-- At a time a call takes a step. -/
def Takes (journal : Journal) (time n : Nat) (passage : Passage) : Prop :=
  journal.motions[time]? = some (.steps n) ∧ journal.passage? time n = some passage

/-- At a time a call takes a partition off the list, and with it its cache. -/
def Withdraws (journal : Journal) (time n : Nat) (partition : Partition) (handle : Nat) : Prop :=
  journal.Takes time n (.closing partition .withdrawing) ∧
    (journal.registry time).find? partition = some handle

variable {journal : Journal} {time n : Nat} {partition : Partition}

/-! ## One motion -/

/-- The next state is what the motion makes of this one. -/
theorem state_succ_of_motion {motion : Motion} (happens : journal.motions[time]? = some motion) :
    journal.state (time + 1) = (journal.state time).next motion := by
  obtain ⟨inside, same⟩ := List.getElem?_eq_some_iff.mp happens
  simp only [state, Traffic.run, List.take_succ_eq_append_getElem inside, List.foldl_append, same]
  rfl

/-- After the last motion nothing changes. -/
theorem state_succ_of_end (ended : journal.motions[time]? = none) :
    journal.state (time + 1) = journal.state time := by
  have beyond := List.getElem?_eq_none_iff.mp ended
  simp only [state, List.take_of_length_le beyond,
    List.take_of_length_le (Nat.le_succ_of_le beyond)]

/-- What a motion makes of the registry. -/
inductive Turn (journal : Journal) (time : Nat) : Registry → Prop where
  | still {after} (alike : (journal.registry time).Alike after) : Turn journal time after
  | creates {partition : Partition} (missing : (journal.registry time).find? partition = none)
      (room : (journal.registry time).full? = none) :
      Turn journal time ((journal.registry time).create partition).2
  | withdraws {n handle : Nat} {partition : Partition}
      (withdraws : journal.Withdraws time n partition handle) :
      Turn journal time ((journal.registry time).withdraw partition)

/-- What one motion does to the registry. -/
theorem turn_succ (journal : Journal) (time : Nat) :
    journal.Turn time (journal.registry (time + 1)) := by
  unfold registry
  cases happens : journal.motions[time]? with
  | none =>
      rw [state_succ_of_end happens]
      exact .still (.refl _)
  | some motion =>
      rw [state_succ_of_motion happens]
      cases motion with
      | opens partition => exact .still (.refl _)
      | closes partition => exact .still (.refl _)
      | works handle cache => exact .still (Registry.setCache_alike ..)
      | steps n =>
          rw [Traffic.next, Traffic.stepPassage]
          cases acting : (journal.state time).passages[n]? with
          | none => exact .still (.refl _)
          | some passage =>
              have turn := passage.turn_step (journal.state time).registry
              simp only
              generalize passage.step (journal.state time).registry = stepped at turn ⊢
              obtain ⟨next, after⟩ := stepped
              cases turn with
              | still alike => exact .still alike
              | creates missing room => exact .creates missing room
              | withdraws found => exact .withdraws ⟨⟨happens, acting⟩, found⟩

/-- After its step a call is where the step has led it, and so is the registry. -/
theorem Takes.succ {passage : Passage} (takes : journal.Takes time n passage) :
    journal.passage? (time + 1) n = some (passage.step (journal.registry time)).1 ∧
      journal.registry (time + 1) = (passage.step (journal.registry time)).2 := by
  obtain ⟨happens, acting⟩ := takes
  obtain ⟨inside, _⟩ := List.getElem?_eq_some_iff.mp acting
  unfold passage? at acting
  unfold passage? registry
  rw [state_succ_of_motion happens, Traffic.next, Traffic.stepPassage, acting]
  exact ⟨List.getElem?_set_self inside, rfl⟩

/-- A call stays where it is while others take steps. -/
theorem passage?_succ_of_ne {passage : Passage} (was : journal.passage? time n = some passage)
    (unmoved : journal.motions[time]? ≠ some (.steps n)) :
    journal.passage? (time + 1) n = some passage := by
  obtain ⟨inside, _⟩ := List.getElem?_eq_some_iff.mp was
  unfold passage? at was ⊢
  cases happens : journal.motions[time]? with
  | none => rwa [state_succ_of_end happens]
  | some motion =>
      rw [state_succ_of_motion happens]
      cases motion with
      | opens partition => exact (List.getElem?_append_left inside).trans was
      | closes partition => exact (List.getElem?_append_left inside).trans was
      | works handle cache => exact was
      | steps k =>
          have other : k ≠ n := by
            rintro rfl
            exact unmoved happens
          rw [Traffic.next, Traffic.stepPassage]
          cases (journal.state time).passages[k]? with
          | none => exact was
          | some passage => exact (List.getElem?_set_ne other).trans was

/-- What a call was before a motion, given what it is after it. -/
theorem passage?_before {after : Passage} (found : journal.passage? (time + 1) n = some after) :
    journal.passage? time n = some after ∨
      ((∃ partition, after = .opening partition .looking) ∨
        ∃ partition, after = .closing partition .withdrawing) ∨
      ∃ before, journal.Takes time n before ∧ after = (before.step (journal.registry time)).1 := by
  cases was : journal.passage? time n with
  | some passage =>
      by_cases moves : journal.motions[time]? = some (.steps n)
      · have takes : journal.Takes time n passage := ⟨moves, was⟩
        exact .inr (.inr ⟨passage, takes, Option.some.inj (found.symm.trans takes.succ.1)⟩)
      · exact .inl ((passage?_succ_of_ne was moves).symm.trans found)
  | none =>
      refine .inr (.inl ?_)
      unfold passage? at was found
      have absent : n ≥ (journal.state time).passages.length := List.getElem?_eq_none_iff.mp was
      have begins {passage : Passage}
          (found : ((journal.state time).passages ++ [passage])[n]? = some after) :
          after = passage := by
        rw [List.getElem?_append_right absent] at found
        exact List.mem_singleton.mp (List.mem_of_getElem? found)
      cases happens : journal.motions[time]? with
      | none =>
          rw [state_succ_of_end happens, was] at found
          cases found
      | some motion =>
          rw [state_succ_of_motion happens] at found
          cases motion with
          | opens partition => exact .inl ⟨partition, begins found⟩
          | closes partition => exact .inr ⟨partition, begins found⟩
          | works handle cache => cases was.symm.trans found
          | steps k =>
              rw [Traffic.next, Traffic.stepPassage] at found
              cases acting : (journal.state time).passages[k]? with
              | none =>
                  rw [acting] at found
                  cases was.symm.trans found
              | some passage =>
                  rw [acting] at found
                  rw [List.getElem?_eq_none (by simpa using absent)] at found
                  cases found

/-- A step of an opening is one of its turns. -/
theorem Takes.opening {phase : Opening} (takes : journal.Takes time n (.opening partition phase)) :
    ∃ next, journal.passage? (time + 1) n = some (.opening partition next) ∧
      Opening.Turn (journal.registry time) partition phase next (journal.registry (time + 1)) := by
  obtain ⟨moved, left⟩ := takes.succ
  refine ⟨_, moved, ?_⟩
  rw [left]
  exact phase.turn_step ..

/-- A step of a closing is one of its turns. -/
theorem Takes.closing {phase : Closing} (takes : journal.Takes time n (.closing partition phase)) :
    ∃ next, journal.passage? (time + 1) n = some (.closing partition next) ∧
      Closing.Turn (journal.registry time) partition phase next (journal.registry (time + 1)) := by
  obtain ⟨moved, left⟩ := takes.succ
  refine ⟨_, moved, ?_⟩
  rw [left]
  exact phase.turn_step ..

/-- An opening was there before, has just begun, or has just taken a step. -/
theorem opening_before {after : Opening}
    (found : journal.passage? (time + 1) n = some (.opening partition after)) :
    journal.passage? time n = some (.opening partition after) ∨ after = .looking ∨
      ∃ phase, journal.Takes time n (.opening partition phase) ∧
        Opening.Turn (journal.registry time) partition phase after
          (journal.registry (time + 1)) := by
  rcases passage?_before found with was | (⟨_, begins⟩ | ⟨_, begins⟩) | ⟨before, takes, stepped⟩
  · exact .inl was
  · cases begins
    exact .inr (.inl rfl)
  · cases begins
  · cases before with
    | closing => cases stepped
    | opening other phase =>
        obtain rfl : partition = other := congrArg Passage.partition stepped
        obtain ⟨next, moved, turn⟩ := takes.opening
        cases moved.symm.trans found
        exact .inr (.inr ⟨phase, takes, turn⟩)

/-- A closing was there before, has just begun, or has just taken a step. -/
theorem closing_before {after : Closing}
    (found : journal.passage? (time + 1) n = some (.closing partition after)) :
    journal.passage? time n = some (.closing partition after) ∨ after = .withdrawing ∨
      ∃ phase, journal.Takes time n (.closing partition phase) ∧
        Closing.Turn (journal.registry time) partition phase after
          (journal.registry (time + 1)) := by
  rcases passage?_before found with was | (⟨_, begins⟩ | ⟨_, begins⟩) | ⟨before, takes, stepped⟩
  · exact .inl was
  · cases begins
  · cases begins
    exact .inr (.inl rfl)
  · cases before with
    | opening => cases stepped
    | closing other phase =>
        obtain rfl : partition = other := congrArg Passage.partition stepped
        obtain ⟨next, moved, turn⟩ := takes.closing
        cases moved.symm.trans found
        exact .inr (.inr ⟨phase, takes, turn⟩)

end Journal

end QueryRewriting

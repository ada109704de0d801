import QueryRewriting.Proofs.Cache.Untouched

/-! # The stages of a load

As long as only lookups touch an id, its first load that succeeds is the last one. The id goes from
stage to stage: nothing has been read for it yet, a definition has been read, an instance was made
of it, the cache holds the instance. Each stage says where lookups of the id can stand, and only the
lookup that carries out the load takes the id to the next stage. Loads that fail leave the id where
it was, so that it can be loaded again.
-/

namespace QueryRewriting

/-! ## Stages -/

/-- How far the load of an id has come that succeeds. -/
inductive Stage where
  | cold
  | read (made : Instance)
  | compiled (made : Instance)
  | held (made : Instance)

namespace Stage

/-- The instance that a load has come to, if it has. -/
def made? : Stage → Option Instance
  | .cold => none
  | .read made => some made
  | .compiled made => some made
  | .held made => some made

/-- The instance of a load that is under way. -/
def pending? : Stage → Option Instance
  | .read made => some made
  | .compiled made => some made
  | _ => none

/-- The instance that the cache holds, if it does. -/
def held? : Stage → Option Instance
  | .held made => some made
  | _ => none

end Stage

namespace History

/-- At a time the store is read for a load of an id and holds a definition that can be loaded. -/
def Obtains (history : History) (id : String) (time : Nat) (made : Instance) : Prop :=
  made.id = id ∧ history.ReadFor time made

/-- At a time a load makes an instance of an id from what the store has replied. -/
def Makes (history : History) (id : String) (time : Nat) (made : Instance) : Prop :=
  ∃ n call serial stamp reply, history.Steps time n call ∧
    call.load? = some (id, serial, .replied stamp reply) ∧
    Instance.compile history.kinds serial id stamp reply = .ok made

/-- Since one time and before another the store was asked for a load. -/
def AskedWithin (history : History) (since time serial : Nat) : Prop :=
  ∃ asked, since ≤ asked ∧ asked < time ∧ history.AsksFor asked serial

/-- Since one time and before another a lookup failed with a load that was asked for in between. -/
def FailedWithin (history : History) (since time n : Nat) (id : String) (fault : LoadError) :
    Prop :=
  ∃ told serial, since ≤ told ∧ told < time ∧ history.Fails told n id serial fault ∧
    history.AskedWithin since told serial

/-- What is known of a load that has obtained nothing. -/
def Fruitless (history : History) (id : String) (since time serial : Nat) : Load → Prop
  | .starting => True
  | .asking stamp => (history.state since).cache.marks.clock ≤ stamp
  | .reading stamp => (history.state since).cache.marks.clock ≤ stamp ∧
      history.AskedWithin since time serial
  | .replied stamp reply => history.AskedWithin since time serial ∧
      ∀ made, Instance.compile history.kinds serial id stamp reply ≠ .ok made

/-- Where a lookup of an id can stand at each stage. -/
inductive Fits (history : History) (id : String) (since time n : Nat) : Stage → Lookup → Prop where
  | seeking {stage tries} : Fits history id since time n stage (.seeking tries)
  | waiting {stage tries serial} : Fits history id since time n stage (.waiting tries serial)
  | loading {tries serial load} (fruitless : history.Fruitless id since time serial load) :
      Fits history id since time n .cold (.loading tries serial load)
  | failing {tries serial fault} (asked : history.AskedWithin since time serial) :
      Fits history id since time n .cold (.publishing tries serial (.error fault))
  | replied {made tries serial stamp reply}
      (success : Instance.compile history.kinds serial id stamp reply = .ok made) :
      Fits history id since time n (.read made) (.loading tries serial (.replied stamp reply))
  | landing {made tries} : Fits history id since time n (.compiled made) (.landing tries made)
  | publishing {made tries serial} :
      Fits history id since time n (.held made) (.publishing tries serial (.ok made))
  | verifying {made tries} : Fits history id since time n (.held made) (.verifying tries made)
  | answered {made} : Fits history id since time n (.held made) (.answered (.ok made))
  | failed {stage fault} (failed : history.FailedWithin since time n id fault) :
      Fits history id since time n stage (.answered (.error fault))
  | past {stage outcome}
      (was : (history.state since).calls[n]? = some (.lookup id (.answered outcome))) :
      Fits history id since time n stage (.answered outcome)

/-- At a time an id has come to a stage. -/
structure At (history : History) (id : String) (since time : Nat) (stage : Stage) : Prop where
  held : (history.state time).cache.get? id = stage.held?
  running : ∀ made, stage.pending? = some made →
    (history.state time).cache.loading? id = some made.serial
  known : ∀ made, stage.made? = some made →
    made.id = id ∧ (history.state since).cache.marks.clock ≤ made.stamp
  fits : ∀ {n : Nat} {phase}, (history.state time).calls[n]? = some (.lookup id phase) →
    history.Fits id since time n stage phase

/-- What an event does to the stage of an id, and what it does not do besides. -/
inductive Follows (history : History) (id : String) (time : Nat) : Stage → Stage → Prop where
  | rests {stage} (unread : ∀ made, ¬ history.Obtains id time made)
      (unmade : ∀ made, ¬ history.Makes id time made) : Follows history id time stage stage
  | reads {made} (obtains : history.Obtains id time made)
      (unmade : ∀ made, ¬ history.Makes id time made) : Follows history id time .cold (.read made)
  | makes {made} (makes : history.Makes id time made)
      (unread : ∀ made, ¬ history.Obtains id time made) :
      Follows history id time (.read made) (.compiled made)
  | installs {made} (unread : ∀ made, ¬ history.Obtains id time made)
      (unmade : ∀ made, ¬ history.Makes id time made) :
      Follows history id time (.compiled made) (.held made)

/-! ## What takes part in a load -/

variable {history : History} {time since bound n : Nat} {id : String} {serial : Nat}
  {made other : Instance} {stage next : Stage}

/-- Whoever steps when a definition is obtained carries the load that obtains it. -/
theorem Obtains.load {call : Call} (obtains : history.Obtains id time made)
    (steps : history.Steps time n call) :
    call.load? = some (id, made.serial, .reading made.stamp) := by
  obtain ⟨rfl, ⟨_, _, again, carries⟩, _, _⟩ := obtains
  obtain ⟨_, rfl⟩ := steps.unique again
  exact carries

/-- Whoever steps when an instance is made carries the reply that it is made of. -/
theorem Makes.load {call : Call} (makes : history.Makes id time made)
    (steps : history.Steps time n call) :
    ∃ serial stamp reply, call.load? = some (id, serial, .replied stamp reply) ∧
      Instance.compile history.kinds serial id stamp reply = .ok made := by
  obtain ⟨_, _, serial, stamp, reply, again, carries, success⟩ := makes
  obtain ⟨_, rfl⟩ := steps.unique again
  exact ⟨serial, stamp, reply, carries, success⟩

/-- A definition is obtained by a step. -/
theorem Obtains.steps (obtains : history.Obtains id time made) :
    ∃ n call, history.Steps time n call ∧
      call.load? = some (id, made.serial, .reading made.stamp) := by
  obtain ⟨rfl, reads, _, _⟩ := obtains
  exact reads

/-- A step reads the store for one instance. -/
theorem Obtains.unique (obtains : history.Obtains id time made)
    (again : history.Obtains id time other) : other = made := by
  obtain ⟨n, call, steps, carries⟩ := obtains.steps
  have same := carries.symm.trans (again.load steps)
  obtain ⟨rfl, _, found, compiled⟩ := obtains
  obtain ⟨subject, _, foundToo, compiledToo⟩ := again
  cases made
  cases other
  cases subject
  cases found.symm.trans foundToo
  cases compiled.symm.trans compiledToo
  cases same
  rfl

/-- A step makes one instance. -/
theorem Makes.unique (makes : history.Makes id time made) (again : history.Makes id time other) :
    other = made := by
  obtain ⟨n, call, serial, stamp, reply, steps, carries, success⟩ := makes
  obtain ⟨number, noted, told, carriesToo, successToo⟩ := again.load steps
  cases carries.symm.trans carriesToo
  cases success.symm.trans successToo
  rfl

/-- No step both reads the store and makes an instance. -/
theorem Obtains.not_makes (obtains : history.Obtains id time made) (other : Instance) :
    ¬ history.Makes id time other := by
  intro makes
  obtain ⟨n, call, steps, carries⟩ := obtains.steps
  obtain ⟨_, _, _, carriesToo, _⟩ := makes.load steps
  cases carries.symm.trans carriesToo

/-! ## Stages over time -/

theorem AskedWithin.mono {later : Nat} (asked : history.AskedWithin since time serial)
    (order : time ≤ later) : history.AskedWithin since later serial := by
  obtain ⟨begun, after, before, asks⟩ := asked
  exact ⟨begun, after, before.trans_le order, asks⟩

/-- What has failed by a time has failed by every later one. -/
theorem FailedWithin.mono {fault : LoadError} {later : Nat}
    (failed : history.FailedWithin since time n id fault) (order : time ≤ later) :
    history.FailedWithin since later n id fault := by
  obtain ⟨told, serial, after, before, fails⟩ := failed
  exact ⟨told, serial, after, before.trans_le order, fails⟩

/-- A load without a definition is no other later on. -/
theorem Fruitless.mono {later : Nat} {load : Load}
    (fruitless : history.Fruitless id since time serial load) (order : time ≤ later) :
    history.Fruitless id since later serial load := by
  cases load with
  | starting => trivial
  | asking stamp => exact fruitless
  | reading stamp => exact ⟨fruitless.1, fruitless.2.mono order⟩
  | replied stamp reply => exact ⟨fruitless.1.mono order, fruitless.2⟩

/-- Where a lookup fits at a time, it fits later on, unless it takes a step. -/
theorem Fits.mono {phase : Lookup} {later : Nat} (fits : history.Fits id since time n stage phase)
    (order : time ≤ later) : history.Fits id since later n stage phase := by
  cases fits with
  | seeking => exact .seeking
  | waiting => exact .waiting
  | loading fruitless => exact .loading (fruitless.mono order)
  | failing asked => exact .failing (asked.mono order)
  | replied success => exact .replied success
  | landing => exact .landing
  | publishing => exact .publishing
  | verifying => exact .verifying
  | answered => exact .answered
  | failed failed => exact .failed (failed.mono order)
  | past was => exact .past was

/-- Whoever has no part in a load stands at its next stage where it stood before. -/
theorem Fits.of_unowned {phase : Lookup} (fits : history.Fits id since time n stage phase)
    (unowned : ∀ serial, (Call.lookup id phase).abandoned? ≠ some (id, serial))
    (unheld : stage.held? = none) : history.Fits id since (time + 1) n next phase := by
  cases fits with
  | seeking => exact .seeking
  | waiting => exact .waiting
  | loading => exact (unowned _ rfl).elim
  | failing => exact (unowned _ rfl).elim
  | replied => exact (unowned _ rfl).elim
  | landing => exact (unowned _ rfl).elim
  | publishing => cases unheld
  | verifying => cases unheld
  | answered => cases unheld
  | failed failed => exact .failed (failed.mono (Nat.le_succ time))
  | past was => exact .past was

/-- Only a step of a lookup leads to where lookups are. -/
theorem eq_lookup_of_step {kinds : Kinds} {call : Call} {store : Store} {cache : PartitionCache}
    {phase : Lookup} (becomes : (call.step kinds store cache).1 = .lookup id phase) :
    ∃ before : Lookup, call = .lookup id before ∧ (before.step kinds id store cache).1 = phase := by
  cases call with
  | lookup key before =>
      cases becomes
      exact ⟨before, rfl, rfl⟩
  | _ => cases becomes

/-- An id has come to a stage if whoever has moved, been told or stayed where it was fits there. -/
theorem At.succ (current : history.At id since time stage)
    (held : (history.state (time + 1)).cache.get? id = next.held?)
    (running : ∀ made, next.pending? = some made →
      (history.state (time + 1)).cache.loading? id = some made.serial)
    (known : ∀ made, next.made? = some made →
      made.id = id ∧ (history.state since).cache.marks.clock ≤ made.stamp)
    (moved : ∀ n phase, history.Steps time n (.lookup id phase) →
      history.Fits id since (time + 1) n next
        (phase.step history.kinds id (history.state time).store (history.state time).cache).1)
    (told : ∀ k n serial outcome left tries,
      history.Steps time k (.lookup id (.publishing left serial outcome)) →
      (history.state time).calls[n]? = some (.lookup id (.waiting tries serial)) →
      history.Fits id since (time + 1) n next (.receive tries outcome))
    (stayed : ∀ (n : Nat) phase, (history.state time).calls[n]? = some (.lookup id phase) →
      (∀ call, ¬ history.Steps time n call) → history.Fits id since time n stage phase →
      history.Fits id since (time + 1) n next phase) :
    history.At id since (time + 1) next := by
  refine ⟨held, running, known, ?_⟩
  intro m phase found
  -- Whoever takes the step may become what it was, so it is set apart before asking what it was.
  by_cases acting : ∃ call, history.Steps time m call
  · obtain ⟨call, steps⟩ := acting
    obtain ⟨before, rfl, rfl⟩ :=
      eq_lookup_of_step (Option.some.inj (steps.call_succ.symm.trans found))
    exact moved m before steps
  have move := callMove_succ found
  generalize after_eq : Call.lookup id phase = after at move
  cases move with
  | kept was =>
      subst after_eq
      exact stayed m phase was (not_exists.mp acting) (current.fits was)
  | @begun request =>
      cases request with
      | lookup key =>
          cases after_eq
          exact .seeking
      | _ => cases after_eq
  | stepped steps => exact (acting ⟨_, steps⟩).elim
  | received steps waits =>
      cases after_eq
      exact told _ _ _ _ _ _ steps waits
  | dropped => cases after_eq
  | released =>
      cases after_eq
      exact .seeking

/-! ## One event -/

/-- A lookup finds the instance or the load under way; only at first does it begin a load. -/
theorem At.fits_seeking {tries : Nat} (current : history.At id since time stage) :
    history.Fits id since (time + 1) n stage ((Lookup.seeking tries).step history.kinds id
      (history.state time).store (history.state time).cache).1 := by
  have moves := Lookup.transition_step history.kinds id (.seeking tries)
    (history.state time).store (history.state time).cache
  generalize Lookup.step .. = result at moves ⊢
  cases moves with
  | found held =>
      have stands := current.held.symm.trans held
      cases stage with
      | held made =>
          cases stands
          exact .verifying
      | _ => cases stands
  | joined => exact .waiting
  | begun missing idle =>
      -- Once the load has read its instance, the id is loading or held until it is marked.
      cases stage with
      | cold => exact .loading trivial
      | read made => cases idle.symm.trans (current.running made rfl)
      | compiled made => cases idle.symm.trans (current.running made rfl)
      | held made => cases missing.symm.trans current.held

/-- A load that has obtained nothing goes on, or fails. -/
theorem Fruitless.fits {tries : Nat} {load : Load}
    (fruitless : history.Fruitless id since time serial load) (after : since ≤ time)
    (steps : history.Steps time n (.lookup id (.loading tries serial load)))
    (unread : ∀ made, ¬ history.Obtains id time made) :
    history.Fits id since (time + 1) n .cold ((Lookup.loading tries serial load).step history.kinds
      id (history.state time).store (history.state time).cache).1 := by
  have moves := Lookup.transition_step history.kinds id (.loading tries serial load)
    (history.state time).store (history.state time).cache
  generalize Lookup.step .. = result at moves ⊢
  cases moves with
  | moved _ moves =>
      have asked {stamp : Nat} (asks : load = .asking stamp) :
          history.AskedWithin since (time + 1) serial := by
        subst asks
        exact ⟨time, after, Nat.lt_succ_self time, stamp, rfl, n, _, id, steps, rfl⟩
      cases moves with
      | noted => exact .loading (history.marks_precedes after).clock_le
      | admitted => exact .loading ⟨fruitless, asked rfl⟩
      | refused => exact .loading ⟨asked rfl, Instance.compile_error _ _ _ _ _⟩
      | told =>
          refine .loading ⟨fruitless.2.mono (Nat.le_succ time), ?_⟩
          intro made success
          obtain ⟨rfl, rfl, rfl, found, compiled⟩ := Instance.of_compile success
          exact unread made ⟨rfl, ⟨n, _, steps, rfl⟩, found, compiled⟩
  | compiled success => exact (fruitless.2 _ success).elim
  | failed => exact .failing (fruitless.1.mono (Nat.le_succ time))

/-- Where a lookup stands that is told of the outcome of the load it has waited for. -/
theorem At.fits_receive {k left tries : Nat} {outcome : Except LoadError Instance}
    (current : history.At id since time stage) (after : since ≤ time)
    (steps : history.Steps time k (.lookup id (.publishing left serial outcome)))
    (waits : (history.state time).calls[n]? = some (.lookup id (.waiting tries serial))) :
    history.Fits id since (time + 1) n stage (.receive tries outcome) := by
  cases current.fits steps.2 with
  | failing asked =>
      exact .failed ⟨time, serial, after, Nat.lt_succ_self time,
        ⟨k, left, steps, .inr ⟨tries, waits⟩⟩, asked⟩
  | publishing => exact .verifying

namespace Untouched

variable (untouched : history.Untouched id since bound)

include untouched

/-- At first nothing has been read. -/
theorem at_cold : history.At id since since .cold := by
  refine ⟨untouched.vacant, nofun, nofun, ?_⟩
  intro n phase was
  have coherent := history.coherent since
  have unowned {serial : Nat} (owns : (Call.lookup id phase).abandoned? = some (id, serial)) :
      False := by
    cases untouched.idle.symm.trans (coherent.registered was owns)
  cases phase with
  | seeking tries => exact .seeking
  | waiting tries serial => exact .waiting
  | loading tries serial load => exact (unowned rfl).elim
  | landing tries made => exact (unowned rfl).elim
  | publishing tries serial outcome => exact (unowned rfl).elim
  | verifying tries found => cases untouched.emptyHanded was rfl
  | discarding tries found => cases untouched.emptyHanded was rfl
  | answered outcome => exact .past was

variable (after : since ≤ time) (before : time < bound)

include after before

/-- The step of a lookup that neither obtains nor makes anything leaves the id at its stage. -/
theorem fits_step {phase : Lookup} (current : history.At id since time stage)
    (steps : history.Steps time n (.lookup id phase))
    (unread : ∀ made, ¬ history.Obtains id time made)
    (unmade : ∀ made, ¬ history.Makes id time made)
    (unlanded : ∀ tries made, phase ≠ .landing tries made) :
    history.Fits id since (time + 1) n stage
      (phase.step history.kinds id (history.state time).store (history.state time).cache).1 := by
  cases current.fits steps.2 with
  | seeking => exact current.fits_seeking
  | waiting => exact .waiting
  | loading fruitless => exact fruitless.fits after steps unread
  | @failing tries serial fault asked =>
      exact .failed ⟨time, serial, after, Nat.lt_succ_self time, ⟨n, tries, steps, .inl rfl⟩, asked⟩
  | @replied made tries serial stamp reply success =>
      exact (unmade made ⟨n, _, serial, stamp, reply, steps, rfl, success⟩).elim
  | landing => exact (unlanded _ _ rfl).elim
  | publishing => exact .verifying
  -- Nobody has marked the id, so what was made is fresh.
  | @verifying made tries =>
      obtain ⟨subject, noted⟩ := current.known made rfl
      simp only [Lookup.step, untouched.isStale_eq_false after before.le subject noted]
      exact .answered
  | answered => exact .answered
  | failed failed => exact .failed (failed.mono (Nat.le_succ time))
  | past was => exact .past was

/-- The stage stays while nothing is obtained, made or landed. -/
theorem at_of_rest (current : history.At id since time stage)
    (unread : ∀ made, ¬ history.Obtains id time made)
    (unmade : ∀ made, ¬ history.Makes id time made)
    (unlanded : ∀ n tries made, ¬ history.Steps time n (.lookup id (.landing tries made))) :
    history.At id since (time + 1) stage := by
  refine current.succ ?_ ?_ current.known ?_ ?_ ?_
  · rw [← current.held]
    refine untouched.get?_succ after before ?_
    intro n phase steps
    have fits := current.fits steps.2
    cases phase with
    | landing tries made => exact (unlanded n tries made steps).elim
    | discarding tries found => cases fits
    | _ => exact ⟨rfl, rfl⟩
  · intro made pending
    refine untouched.loading?_succ after before (current.running made pending) ?_
    intro n tries number outcome steps
    have fits := current.fits steps.2
    cases fits <;> cases pending
  · intro n phase steps
    refine untouched.fits_step after before current steps unread unmade ?_
    rintro tries made rfl
    exact unlanded n tries made steps
  · intro k n serial outcome left tries steps waits
    exact current.fits_receive after steps waits
  · intro n phase _ _ fits
    exact fits.mono (Nat.le_succ time)

/-- The lookup that carries out the load takes the id to the next stage, and nobody else moves. -/
theorem at_of_move {phase : Lookup} (current : history.At id since time stage)
    (steps : history.Steps time n (.lookup id phase))
    (owns : (Call.lookup id phase).abandoned? = some (id, serial))
    (unended : (Call.lookup id phase).published? = none) (unheld : stage.held? = none)
    (held : (history.state (time + 1)).cache.get? id = next.held?)
    (running : ∀ made, next.pending? = some made → made.serial = serial)
    (known : ∀ made, next.made? = some made →
      made.id = id ∧ (history.state since).cache.marks.clock ≤ made.stamp)
    (fits : history.Fits id since (time + 1) n next
      (phase.step history.kinds id (history.state time).store (history.state time).cache).1) :
    history.At id since (time + 1) next := by
  refine current.succ held ?_ known ?_ ?_ ?_
  · intro made pending
    have registered := (history.coherent time).registered steps.2 owns
    rw [running made pending]
    refine untouched.loading?_succ after before registered ?_
    intro k tries number outcome again
    obtain ⟨_, same⟩ := steps.unique again
    cases same
    cases unended
  · intro m other again
    obtain ⟨rfl, same⟩ := steps.unique again
    cases same
    exact fits
  · intro k m number outcome left tries again waits
    obtain ⟨_, same⟩ := steps.unique again
    cases same
    cases unended
  · intro m other was still fitsToo
    refine fitsToo.of_unowned ?_ unheld
    intro number ownsToo
    cases (history.coherent time).eq_of_owned steps.2 was owns ownsToo
    exact still _ steps

/-- The one successful reading of the store. -/
theorem follows_of_obtains (current : history.At id since time stage)
    (obtains : history.Obtains id time made) :
    ∃ next, history.Follows id time stage next ∧ history.At id since (time + 1) next := by
  obtain ⟨n, call, steps, carries⟩ := obtains.steps
  obtain ⟨tries, rfl⟩ := untouched.eq_loading after before steps carries
  obtain rfl : made.id = id := obtains.1
  have reads := obtains.2
  have found : (history.state time).store.find? made.id = .ok (some made.definition) := reads.found
  have success : Instance.compile history.kinds made.serial made.id made.stamp
      (.ok (some made.definition)) = .ok made := by
    simp only [Instance.compile, reads.compiled]
  cases current.fits steps.2 with
  | loading fruitless =>
      refine ⟨.read made, .reads obtains obtains.not_makes, ?_⟩
      refine untouched.at_of_move after before current steps rfl rfl rfl ?_ ?_ ?_ ?_
      · rw [steps.cache_succ]
        exact current.held
      · rintro _ ⟨⟩
        rfl
      · rintro _ ⟨⟩
        exact ⟨rfl, fruitless.1⟩
      · simp only [Lookup.step, Load.step, found]
        exact .replied success

/-- The one construction of an instance. -/
theorem follows_of_makes (current : history.At id since time stage)
    (makes : history.Makes id time made) :
    ∃ next, history.Follows id time stage next ∧ history.At id since (time + 1) next := by
  have ⟨n, call, serial, stamp, reply, steps, carries, success⟩ := makes
  obtain ⟨tries, rfl⟩ := untouched.eq_loading after before steps carries
  have becomes : (Call.lookup id (.loading tries serial (.replied stamp reply))).step history.kinds
      (history.state time).store (history.state time).cache =
      (.lookup id (.landing tries made), (history.state time).store,
        (history.state time).cache) := by
    simp only [Call.step, Lookup.step, success]
  cases current.fits steps.2 with
  | loading fruitless => exact (fruitless.2 made success).elim
  | @replied read _ _ _ _ successToo =>
      cases success.symm.trans successToo
      refine ⟨.compiled made, .makes makes fun other obtains => obtains.not_makes made makes, ?_⟩
      refine untouched.at_of_move after before current steps rfl rfl rfl ?_ ?_ ?_ ?_
      · rw [steps.cache_succ, becomes]
        exact current.held
      · rintro _ ⟨⟩
        exact (Instance.of_compile success).1
      · exact current.known
      · simp only [Lookup.step, success]
        exact .landing

/-- The instance comes into the cache. -/
theorem follows_of_lands {tries : Nat} (current : history.At id since time stage)
    (steps : history.Steps time n (.lookup id (.landing tries made)))
    (unread : ∀ made, ¬ history.Obtains id time made)
    (unmade : ∀ made, ¬ history.Makes id time made) :
    ∃ next, history.Follows id time stage next ∧ history.At id since (time + 1) next := by
  cases current.fits steps.2 with
  | landing =>
      obtain ⟨rfl, _⟩ := current.known made rfl
      refine ⟨.held made, .installs unread unmade, ?_⟩
      refine untouched.at_of_move after before current steps rfl rfl rfl ?_ nofun current.known
        .publishing
      rw [steps.cache_succ]
      refine PartitionCache.get?_insert_self ?_ made
      rw [history.maxBytes_state]
      exact untouched.roomy

/-- Every event leaves the id at its stage or takes it to the next one. -/
theorem follows (current : history.At id since time stage) :
    ∃ next, history.Follows id time stage next ∧ history.At id since (time + 1) next := by
  by_cases reads : ∃ made, history.Obtains id time made
  · obtain ⟨made, obtains⟩ := reads
    exact untouched.follows_of_obtains after before current obtains
  by_cases builds : ∃ made, history.Makes id time made
  · obtain ⟨made, makes⟩ := builds
    exact untouched.follows_of_makes after before current makes
  have unread := not_exists.mp reads
  have unmade := not_exists.mp builds
  by_cases lands : ∃ n tries made, history.Steps time n (.lookup id (.landing tries made))
  · obtain ⟨n, tries, made, steps⟩ := lands
    exact untouched.follows_of_lands after before current steps unread unmade
  · refine ⟨stage, .rests unread unmade, ?_⟩
    refine untouched.at_of_rest after before current unread unmade ?_
    intro n tries made steps
    exact lands ⟨n, tries, made, steps⟩

end Untouched

/-! ## What has happened by a stage -/

/-- Since one time and before another nothing of a sort has happened. -/
def Never (P : Nat → Instance → Prop) (since time : Nat) : Prop :=
  ∀ happened made, since ≤ happened → happened < time → ¬ P happened made

/-- Since one time and before another something of a sort has happened once. -/
def Once (P : Nat → Instance → Prop) (since time : Nat) (made : Instance) : Prop :=
  ∃ first, since ≤ first ∧ first < time ∧ P first made ∧
    ∀ again other, since ≤ again → again < time → P again other → again = first ∧ other = made

section Once

variable {P : Nat → Instance → Prop}

/-- Within no time nothing happens. -/
theorem never_start (P : Nat → Instance → Prop) (since : Nat) : Never P since since := by
  intro happened made after before
  omega

/-- What has not happened, and does not happen now, has not happened by the next time. -/
theorem Never.succ (never : Never P since time) (now : ∀ made, ¬ P time made) :
    Never P since (time + 1) := by
  intro happened made after before
  rcases Nat.lt_succ_iff_lt_or_eq.mp before with past | rfl
  · exact never happened made after past
  · exact now made

/-- What has not happened, and happens now for one instance, has happened once. -/
theorem Never.once (never : Never P since time) (after : since ≤ time) (now : P time made)
    (sole : ∀ other, P time other → other = made) : Once P since (time + 1) made := by
  refine ⟨time, after, Nat.lt_succ_self time, now, ?_⟩
  intro again other since before happens
  rcases Nat.lt_succ_iff_lt_or_eq.mp before with past | rfl
  · exact (never again other since past happens).elim
  · exact ⟨rfl, sole other happens⟩

/-- What has happened once, and does not happen now, has happened once by the next time. -/
theorem Once.succ (once : Once P since time made) (now : ∀ other, ¬ P time other) :
    Once P since (time + 1) made := by
  obtain ⟨first, after, before, happens, sole⟩ := once
  refine ⟨first, after, before.trans (Nat.lt_succ_self time), happens, ?_⟩
  intro again other since before happensToo
  rcases Nat.lt_succ_iff_lt_or_eq.mp before with past | rfl
  · exact sole again other since past happensToo
  · exact (now other happensToo).elim

end Once

/-- How often the store was read for an id and an instance was made of it, by its stage. -/
def Logged (history : History) (id : String) (since time : Nat) : Stage → Prop
  | .cold => Never (history.Obtains id) since time ∧ Never (history.Makes id) since time
  | .read made => Once (history.Obtains id) since time made ∧ Never (history.Makes id) since time
  | .compiled made =>
    Once (history.Obtains id) since time made ∧ Once (history.Makes id) since time made
  | .held made =>
    Once (history.Obtains id) since time made ∧ Once (history.Makes id) since time made

/-- The log of one more event. -/
theorem Logged.succ (logged : history.Logged id since time stage) (after : since ≤ time)
    (follows : history.Follows id time stage next) : history.Logged id since (time + 1) next := by
  cases follows with
  | rests unread unmade =>
      cases stage with
      | cold => exact ⟨logged.1.succ unread, logged.2.succ unmade⟩
      | read made => exact ⟨logged.1.succ unread, logged.2.succ unmade⟩
      | compiled made => exact ⟨logged.1.succ unread, logged.2.succ unmade⟩
      | held made => exact ⟨logged.1.succ unread, logged.2.succ unmade⟩
  | reads obtains unmade =>
      exact ⟨logged.1.once after obtains fun _ again => obtains.unique again,
        logged.2.succ unmade⟩
  | makes makes unread =>
      exact ⟨logged.1.succ unread, logged.2.once after makes fun _ again => makes.unique again⟩
  | installs unread unmade => exact ⟨logged.1.succ unread, logged.2.succ unmade⟩

/-- At every time the id is at a stage, and what has happened since is what that stage says. -/
theorem Untouched.reaches (untouched : history.Untouched id since bound) (after : since ≤ time)
    (upTo : time ≤ bound) :
    ∃ stage, history.At id since time stage ∧ history.Logged id since time stage := by
  induction time, after using Nat.le_induction with
  | base => exact ⟨.cold, untouched.at_cold, never_start _ _, never_start _ _⟩
  | succ time after ih =>
      obtain ⟨stage, current, logged⟩ := ih (Nat.le_of_succ_le upTo)
      obtain ⟨next, follows, reached⟩ := untouched.follows after upTo current
      exact ⟨next, reached, logged.succ after follows⟩

end History

end QueryRewriting

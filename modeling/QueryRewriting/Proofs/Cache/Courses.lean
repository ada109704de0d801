import QueryRewriting.Proofs.Cache.Sweeps
import QueryRewriting.Proofs.Cache.Visits

/-! # Courses of a reload

A reload goes through the open partitions in some order, and the store may be another one at each of
its steps. Where it stands follows from the visits that are complete and from how far the present
one has come: each visit leaves what its own reply makes of its partition, whatever became of those
before it. -/

namespace QueryRewriting

/-! ## Steps to go -/

/-- How many steps a visit has before it at most. -/
def Reload.left : Reload → Nat
  | checking => 9
  | loading _ .starting => 8
  | loading _ (.asking _) => 7
  | loading _ (.reading _) => 6
  | loading _ (.replied _ _) => 5
  | comparing _ => 4
  | installing _ => 3
  | rechecking _ => 2
  | forgetting => 2
  | retracting _ => 1
  | removing => 1
  | marking => 1
  | answered _ => 0

/-- Every step brings a reload nearer to its answer. -/
theorem Reload.left_step {phase : Reload} (unanswered : ∀ outcome, phase ≠ .answered outcome)
    (kinds : Kinds) (id : String) (store : Store) (cache : PartitionCache) :
    (phase.step kinds id store cache).1.left < phase.left := by
  have moves := transition_step kinds id phase store cache
  generalize phase.step kinds id store cache = result at moves ⊢
  cases moves with
  | moved _ moves => cases moves <;> simp [left]
  | ended => exact absurd rfl (unanswered _)
  | _ => simp [left]

/-- A reload has its answer or has not. -/
theorem Reload.answered_or (phase : Reload) :
    (∃ outcome, phase = .answered outcome) ∨ ∀ outcome, phase ≠ .answered outcome := by
  by_cases answered : ∃ outcome, phase = .answered outcome
  · exact .inl answered
  · exact .inr (not_exists.mp answered)

namespace Sweep

@[simp]
theorem pending_account (sweep : Sweep) (rest : List Nat) (outcome : Except LoadError Bool) :
    (sweep.account rest outcome).pending = rest := by
  cases outcome <;> rfl

@[simp]
theorem phase_account (sweep : Sweep) (rest : List Nat) (outcome : Except LoadError Bool) :
    (sweep.account rest outcome).phase = .checking := by
  cases outcome <;> rfl

@[simp]
theorem id_account (sweep : Sweep) (rest : List Nat) (outcome : Except LoadError Bool) :
    (sweep.account rest outcome).id = sweep.id := by
  cases outcome <;> rfl

/-- How many steps a sweep has before it at most. -/
def left (sweep : Sweep) : Nat :=
  match sweep.pending with
  | [] => 0
  | _ :: rest => sweep.phase.left + 1 + maxSteps rest.length

/-- How many steps are left when a visit has been accounted for. -/
theorem left_account (sweep : Sweep) (rest : List Nat) (outcome : Except LoadError Bool) :
    (sweep.account rest outcome).left = maxSteps rest.length := by
  rw [left, pending_account, phase_account]
  cases rest with
  | nil => rfl
  | cons place others =>
      simp only [Reload.left, maxSteps, Reload.maxSteps, List.length_cons]
      omega

/-- A step ends the visit of a place, or it is one of this visit. -/
theorem step_cases {sweep : Sweep} {place : Nat} {rest : List Nat}
    (pending : sweep.pending = place :: rest) (store : Store) (registry : Registry) :
    (∃ outcome, sweep.step store registry = (sweep.account rest outcome, store, registry)) ∨
      ∃ cache, registry.cache? place = some cache ∧
        (∀ outcome, sweep.phase ≠ .answered outcome) ∧
        sweep.step store registry =
          ({ sweep with phase := (sweep.phase.step registry.kinds sweep.id store cache).1 },
            (sweep.phase.step registry.kinds sweep.id store cache).2.1,
            registry.setCache place
              (sweep.phase.step registry.kinds sweep.id store cache).2.2) := by
  rcases sweep.phase.answered_or with ⟨outcome, answered⟩ | unanswered
  · exact .inl ⟨outcome, by simp only [step, pending, answered]⟩
  · cases present : registry.cache? place with
    | none => exact .inl ⟨.ok false, by simp only [step, pending, present]⟩
    | some cache =>
        exact .inr ⟨cache, rfl, unanswered, step_of_unanswered pending present unanswered⟩

/-- Every step brings a sweep nearer to its end. -/
theorem left_step {sweep : Sweep} (unended : sweep.pending ≠ []) (store : Store)
    (registry : Registry) : (sweep.step store registry).1.left < sweep.left := by
  cases pending : sweep.pending with
  | nil => exact absurd pending unended
  | cons place rest =>
      have before : sweep.left = sweep.phase.left + 1 + maxSteps rest.length := by
        rw [left, pending]
      rw [before]
      rcases step_cases pending store registry with
        ⟨outcome, accounts⟩ | ⟨cache, _, unanswered, steps⟩
      · rw [accounts, left_account]
        omega
      · have less := Reload.left_step unanswered registry.kinds sweep.id store cache
        rw [steps, left, pending]
        simp only
        omega

/-- The place for which a sweep is about to ask the store, if it is. -/
def asks (sweep : Sweep) : List Nat :=
  match sweep.pending with
  | [] => []
  | place :: _ => if sweep.phase.asks then [place] else []

/-- The reply that a sweep has just received, under the place for which it had asked. -/
def received (sweep : Sweep) : List (Nat × StoreReply) :=
  match sweep.pending with
  | [] => []
  | place :: _ => (sweep.phase.reply?.map (place, ·)).toList

theorem received_account (sweep : Sweep) (rest : List Nat) (outcome : Except LoadError Bool) :
    (sweep.account rest outcome).received = [] := by
  cases outcome <;> cases rest <;> rfl

/-- A sweep is about one id. -/
theorem id_step (sweep : Sweep) (store : Store) (registry : Registry) :
    (sweep.step store registry).1.id = sweep.id := by
  cases pending : sweep.pending with
  | nil => simp only [step, pending]
  | cons place rest =>
      rcases step_cases pending store registry with ⟨outcome, accounts⟩ | ⟨_, _, _, steps⟩
      · rw [accounts, id_account]
      · rw [steps]

variable {sweep : Sweep} {store : Store} {registry : Registry}

/-- A reply that was received in a step is what the visit was told in it. -/
theorem told_of_received {entry : Nat × StoreReply}
    (member : entry ∈ (sweep.step store registry).1.received) :
    sweep.phase.told? sweep.id store = some entry.2 := by
  cases pending : sweep.pending with
  | nil =>
      simp only [step, pending, received] at member
      cases member
  | cons place rest =>
      rcases step_cases pending store registry with
        ⟨outcome, accounts⟩ | ⟨cache, _, _, steps⟩
      · rw [accounts, received_account] at member
        cases member
      · rw [steps, received, pending] at member
        obtain ⟨reply, received, rfl⟩ := Option.map_eq_some_iff.mp (Option.mem_toList.mp member)
        exact (Reload.reply?_step ..).symm.trans received

/-- A sweep reads only what a working store has let begin. -/
theorem available_of_reading {serial stamp : Nat} (unended : sweep.pending ≠ [])
    (reads : (sweep.step store registry).1.phase = .loading serial (.reading stamp)) :
    store.available = true := by
  cases pending : sweep.pending with
  | nil => exact absurd pending unended
  | cons place rest =>
      rcases step_cases pending store registry with
        ⟨outcome, accounts⟩ | ⟨cache, _, _, steps⟩
      · rw [accounts, phase_account] at reads
        cases reads
      · rw [steps] at reads
        exact Reload.available_of_reading reads

end Sweep

/-! ## Courses -/

/-- A sweep on its way through a registry, the places for which it has asked the store, and the
replies that it has received. -/
structure Course where
  sweep : Sweep
  registry : Registry
  asked : List Nat
  replies : List (Nat × StoreReply)

namespace Course

/-- A reload that is about to visit some places. -/
def start (registry : Registry) (id : String) (places : List Nat) : Course :=
  { sweep := .start id places, registry, asked := [], replies := [] }

/-- A step, with the store as it is then. -/
def step (course : Course) (store : Store) : Course :=
  let (sweep, _, registry) := course.sweep.step store course.registry
  { sweep, registry
    asked := course.asked ++ course.sweep.asks
    replies := course.replies ++ sweep.received }

/-- A step for each of some stores. -/
def run (course : Course) (stores : List Store) : Course := stores.foldl step course

/-- The replies after one more step. -/
theorem replies_step (course : Course) (store : Store) :
    (course.step store).replies =
      course.replies ++ (course.sweep.step store course.registry).1.received := rfl

/-- A course that has come to its end stays there. -/
theorem step_ended {course : Course} (ended : course.sweep.pending = []) (store : Store) :
    course.step store = course := by
  simp only [step, Sweep.step, Sweep.asks, Sweep.received, ended, List.append_nil]

/-- A course that has come to its end stays there, whatever the store is like. -/
theorem run_ended {course : Course} (ended : course.sweep.pending = []) (stores : List Store) :
    course.run stores = course := by
  induction stores with
  | nil => rfl
  | cons store rest ih =>
      rw [run, List.foldl_cons, step_ended ended]
      exact ih

/-- A course that may take enough steps comes to its end. -/
theorem pending_run {course : Course} {stores : List Store}
    (enough : course.sweep.left ≤ stores.length) : (course.run stores).sweep.pending = [] := by
  induction stores generalizing course with
  | nil =>
      cases pending : course.sweep.pending with
      | nil => exact pending
      | cons place rest =>
          rw [Sweep.left, pending] at enough
          simp at enough
  | cons store rest ih =>
      by_cases ended : course.sweep.pending = []
      · rw [run_ended ended]
        exact ended
      · have less := Sweep.left_step ended store course.registry
        rw [List.length_cons] at enough
        have later : (course.step store).sweep.left ≤ rest.length :=
          Nat.le_of_lt_succ (less.trans_le enough)
        exact ih later

/-! ## Where a course stands -/

/-- A visit that is complete: its place, and the reply that it received, if the id was held there.
-/
structure Visit where
  place : Nat
  reply? : Option StoreReply

/-- The places for which some visits asked the store. -/
def asksOf (visits : List Visit) : List Nat :=
  (visits.filter (·.reply?.isSome)).map (·.place)

/-- The replies that some visits received. -/
def repliesOf (visits : List Visit) : List (Nat × StoreReply) :=
  visits.filterMap fun visit => visit.reply?.map (visit.place, ·)

theorem asksOf_concat (visits : List Visit) (place : Nat) (reply? : Option StoreReply) :
    asksOf (visits ++ [⟨place, reply?⟩]) =
      asksOf visits ++ if reply?.isSome then [place] else [] := by
  cases reply? <;> simp [asksOf, List.filter_append]

theorem repliesOf_concat (visits : List Visit) (place : Nat) (reply? : Option StoreReply) :
    repliesOf (visits ++ [⟨place, reply?⟩]) =
      repliesOf visits ++ (reply?.map (place, ·)).toList := by
  cases reply? <;> simp [repliesOf]

/-- How far a course has come with the first of the places that it has yet to leave, behind some
visits. -/
def Heads (before : Registry) (id : String) (visits : List Visit) (course : Course) : Prop :=
  match course.sweep.pending with
  | [] => course.asked = asksOf visits ∧ course.replies = repliesOf visits
  | place :: _ => ∃ cache now asked reply?,
      before.cache? place = some cache ∧ course.registry.cache? place = some now ∧
      PartitionCache.Amid before.kinds id cache course.sweep.phase now asked reply? ∧
      course.asked = asksOf visits ++ (if asked then [place] else []) ∧
      course.replies = repliesOf visits ++ (reply?.map (place, ·)).toList

/-- Where a course stands that began in a registry and was to visit some places: it has made some
visits, each of which left what its reply makes of the cache, it is amid the next one, and it has
touched nothing else. -/
structure Stands (before : Registry) (id : String) (places : List Nat) (visits : List Visit)
    (course : Course) : Prop where
  named : course.sweep.id = id
  order : visits.map (·.place) ++ course.sweep.pending = places
  frame : course.registry = { before with caches := course.registry.caches }
  visited : ∀ visit ∈ visits, ∃ cache, before.cache? visit.place = some cache ∧
    visit.reply?.isSome = cache.contains id ∧
    course.registry.cache? visit.place = some (cache.visit before.kinds id visit.reply?).2
  head : course.Heads before id visits
  others : ∀ place, place ∉ visits.map (·.place) → course.sweep.pending.head? ≠ some place →
    course.registry.cache? place = before.cache? place
  renewed : course.sweep.renewed = visits.countP fun visit =>
    visit.reply?.any fun reply => (before.kinds.refusal? id reply).isNone
  failure : course.sweep.failure =
    visits.findSome? fun visit => visit.reply?.bind (before.kinds.refusal? id)

/-- Places that a course may visit in turn: they are all different, and there is a cache at each. -/
structure Visitable (registry : Registry) (places : List Nat) : Prop where
  apart : places.Nodup
  caches : ∀ place ∈ places, ∃ cache, registry.cache? place = some cache ∧ cache.Regular

variable {before : Registry} {id : String} {places : List Nat} {visits : List Visit}
  {course : Course}

/-- A course that comes to a place that was not touched so far. -/
theorem heads_of_checking (phase : course.sweep.phase = .checking)
    (present : ∀ place ∈ course.sweep.pending, ∃ cache, before.cache? place = some cache)
    (untouched : ∀ place, course.sweep.pending.head? = some place →
      course.registry.cache? place = before.cache? place)
    (asked : course.asked = asksOf visits) (replies : course.replies = repliesOf visits) :
    course.Heads before id visits := by
  unfold Heads
  cases pending : course.sweep.pending with
  | nil => exact ⟨asked, replies⟩
  | cons place rest =>
      obtain ⟨cache, there⟩ := present place (pending ▸ List.mem_cons_self)
      have kept := untouched place (by rw [pending]; rfl)
      refine ⟨cache, cache, false, none, there, kept.trans there, phase ▸ .checking, ?_, ?_⟩
      · simpa using asked
      · simpa using replies

/-- At first no partition has been visited. -/
theorem stands_start (visitable : Visitable before places) (id : String) :
    Stands before id places [] (start before id places) where
  named := rfl
  order := rfl
  frame := rfl
  visited _ member := nomatch member
  head := heads_of_checking rfl
    (fun place member => (visitable.caches place member).imp fun _ => And.left) (fun _ _ => rfl)
    rfl rfl
  others _ _ _ := rfl
  renewed := rfl
  failure := rfl

/-- The places that a course has left, the one where it is and those to come are all different. -/
theorem Stands.apart {place : Nat} {rest : List Nat}
    (stands : Stands before id places visits course) (visitable : Visitable before places)
    (pending : course.sweep.pending = place :: rest) :
    place ∉ visits.map (·.place) ∧ place ∉ rest ∧
      ∀ other ∈ rest, other ∉ visits.map (·.place) := by
  have different := visitable.apart
  rw [← stands.order, pending] at different
  obtain ⟨_, later, apart⟩ := List.nodup_append.mp different
  refine ⟨fun member => apart place member place List.mem_cons_self rfl,
    (List.nodup_cons.mp later).1, fun other member visited => ?_⟩
  exact apart other visited other (List.mem_cons_of_mem place member) rfl

/-- A visit that has its answer is accounted for with the next step. -/
theorem step_of_answered {place : Nat} {rest : List Nat} {outcome : Except LoadError Bool}
    (pending : course.sweep.pending = place :: rest)
    (answered : course.sweep.phase = .answered outcome) (store : Store) :
    course.step store = { course with sweep := course.sweep.account rest outcome } := by
  have accounts : course.sweep.step store course.registry =
      (course.sweep.account rest outcome, store, course.registry) := by
    simp only [Sweep.step, pending, answered]
  have still : course.sweep.asks = [] := by
    simp [Sweep.asks, pending, answered, Reload.asks]
  simp only [step, accounts, Sweep.received_account, still, List.append_nil]

/-- A visit that has no answer yet takes a step of its reload. -/
theorem step_of_unanswered {place : Nat} {rest : List Nat} {now : PartitionCache}
    (pending : course.sweep.pending = place :: rest)
    (present : course.registry.cache? place = some now)
    (unanswered : ∀ outcome, course.sweep.phase ≠ .answered outcome) (store : Store) :
    course.step store =
      let next := course.sweep.phase.step course.registry.kinds course.sweep.id store now
      { sweep := { course.sweep with phase := next.1 }
        registry := course.registry.setCache place next.2.2
        asked := course.asked ++ if course.sweep.phase.asks then [place] else []
        replies := course.replies ++ (next.1.reply?.map (place, ·)).toList } := by
  simp only [step, Sweep.step_of_unanswered pending present unanswered, Sweep.asks, Sweep.received,
    pending]

/-- What a sweep notes of a visit. -/
theorem account_visit (sweep : Sweep) (rest : List Nat) (kinds : Kinds) (cache : PartitionCache)
    (reply? : Option StoreReply) :
    (sweep.account rest (cache.visit kinds id reply?).1).renewed =
        sweep.renewed +
          (if reply?.any fun reply => (kinds.refusal? id reply).isNone then 1 else 0) ∧
      (sweep.account rest (cache.visit kinds id reply?).1).failure =
        sweep.failure.or (reply?.bind (kinds.refusal? id)) := by
  rw [PartitionCache.visit_outcome]
  cases reply? with
  | none => simp [Sweep.account]
  | some reply => cases refused : kinds.refusal? id reply <;> simp [Sweep.account, refused]

/-- The visit that ends joins those that are complete. -/
theorem Stands.account {place : Nat} {rest : List Nat} {outcome : Except LoadError Bool}
    (stands : Stands before id places visits course) (visitable : Visitable before places)
    (pending : course.sweep.pending = place :: rest)
    (answered : course.sweep.phase = .answered outcome) (store : Store) :
    ∃ reply?, Stands before id places (visits ++ [⟨place, reply?⟩]) (course.step store) := by
  obtain ⟨_, fresh, later⟩ := stands.apart visitable pending
  have order := stands.order
  have head := stands.head
  unfold Heads at head
  rw [pending] at order head
  obtain ⟨cache, now, asked, reply?, there, here, amid, asks, replies⟩ := head
  rw [answered] at amid
  obtain ⟨asked_iff, rfl, rfl, rfl⟩ := amid.of_answered
  -- The visit joins those accounted for; the rest is as if it had been about to begin.
  have listed (other : Nat) : other ∈ (visits ++ [Visit.mk place reply?]).map (·.place) ↔
      other ∈ visits.map (·.place) ∨ other = place := by
    simp
  rw [step_of_answered pending answered]
  refine ⟨reply?, ?_, ?_, stands.frame, ?_, ?_, ?_, ?_, ?_⟩
  · exact (course.sweep.id_account rest _).trans stands.named
  · rw [Sweep.pending_account, List.map_append, List.append_assoc]
    exact order
  · intro visit member
    rcases List.mem_append.mp member with past | last
    · exact stands.visited visit past
    · cases List.mem_singleton.mp last
      exact ⟨cache, there, asked_iff, here⟩
  · refine heads_of_checking (course.sweep.phase_account rest _) (fun other member => ?_)
      (fun other first => ?_) ?_ ?_
    · rw [Sweep.pending_account] at member
      obtain ⟨found, present, _⟩ := visitable.caches other (order ▸ by simp [member])
      exact ⟨found, present⟩
    · have member : other ∈ rest := by
        rw [Sweep.pending_account] at first
        exact List.mem_of_mem_head? first
      refine stands.others other (later other member) ?_
      rw [pending]
      rintro same
      cases same
      exact fresh member
    · rw [asksOf_concat]
      exact asks
    · rw [repliesOf_concat]
      exact replies
  · intro other absent apart
    rw [listed, not_or] at absent
    refine stands.others other absent.1 ?_
    rw [pending]
    exact fun same => absent.2 (Option.some.inj same).symm
  · rw [(account_visit course.sweep rest before.kinds cache reply?).1, stands.renewed,
      List.countP_append, List.countP_singleton]
  · rw [(account_visit course.sweep rest before.kinds cache reply?).2, stands.failure,
      List.findSome?_append, List.findSome?_singleton]

/-- A step of a visit. -/
theorem Stands.advance {place : Nat} {rest : List Nat}
    (stands : Stands before id places visits course) (visitable : Visitable before places)
    (pending : course.sweep.pending = place :: rest)
    (unanswered : ∀ outcome, course.sweep.phase ≠ .answered outcome) (store : Store) :
    Stands before id places visits (course.step store) := by
  obtain ⟨alone, _⟩ := stands.apart visitable pending
  have kinds : course.registry.kinds = before.kinds := by rw [stands.frame]
  have order := stands.order
  have head := stands.head
  unfold Heads at head
  rw [pending] at order head
  obtain ⟨cache, now, asked, reply?, there, here, amid, asks, replies⟩ := head
  obtain ⟨cache, same, regular⟩ := visitable.caches place (order ▸ by simp)
  cases there.symm.trans same
  have onward := amid.step regular unanswered store
  rw [step_of_unanswered pending here unanswered, kinds, stands.named]
  constructor
  · exact stands.named
  · exact pending ▸ order
  · rw [stands.frame]
    rfl
  · intro visit member
    obtain ⟨found, present, asked_iff, visited⟩ := stands.visited visit member
    refine ⟨found, present, asked_iff, ?_⟩
    rw [← visited]
    refine Registry.cache?_setCache_of_ne ?_ _
    rintro same
    exact alone (same ▸ List.mem_map_of_mem member)
  · unfold Heads
    simp only [pending]
    refine ⟨cache, _, _, _, there, Registry.cache?_setCache_self here _, onward, ?_, ?_⟩
    -- A visit asks at most once, and is told at most once.
    · rw [asks, List.append_assoc]
      congr 1
      cases begins : course.sweep.phase.asks with
      | false => simp
      | true => simp [amid.not_asked begins]
    · rw [replies, List.append_assoc]
      congr 1
      cases received : (course.sweep.phase.step before.kinds id store now).1.reply? with
      | none => simp
      | some reply => simp [amid.no_reply ((Reload.reply?_step ..).symm.trans received)]
  · intro other absent distinct
    rw [← stands.others other absent distinct]
    refine Registry.cache?_setCache_of_ne ?_ _
    rintro rfl
    exact distinct (by simp only [pending, List.head?_cons])
  · exact stands.renewed
  · exact stands.failure

/-- A step of a course, whatever the store is like. -/
theorem Stands.step (stands : Stands before id places visits course)
    (visitable : Visitable before places) (store : Store) :
    ∃ later, Stands before id places later (course.step store) := by
  cases pending : course.sweep.pending with
  | nil =>
      rw [step_ended pending]
      exact ⟨visits, stands⟩
  | cons place rest =>
      rcases course.sweep.phase.answered_or with ⟨outcome, answered⟩ | unanswered
      · obtain ⟨reply?, stands⟩ := stands.account visitable pending answered store
        exact ⟨_, stands⟩
      · exact ⟨visits, stands.advance visitable pending unanswered store⟩

/-- Wherever a course stands, it stands somewhere after more steps. -/
theorem Stands.run (stands : Stands before id places visits course)
    (visitable : Visitable before places) (stores : List Store) :
    ∃ later, Stands before id places later (course.run stores) := by
  induction stores generalizing visits course with
  | nil => exact ⟨visits, stands⟩
  | cons store rest ih =>
      obtain ⟨later, stands⟩ := stands.step visitable store
      exact ih stands

/-- Every reply was given by a store that the course has met. -/
theorem gives_of_mem_run {stores : List Store} {entry : Nat × StoreReply}
    (member : entry ∈ (course.run stores).replies) :
    entry ∈ course.replies ∨ ∃ store ∈ stores, store.Gives course.sweep.id entry.2 := by
  induction stores generalizing course with
  | nil => exact .inl member
  | cons store rest ih =>
      have named : (course.step store).sweep.id = course.sweep.id := Sweep.id_step ..
      have told : entry ∈ ((course.step store).run rest).replies := member
      rcases ih told with early | ⟨met, later, gives⟩
      · rw [replies_step] at early
        rcases List.mem_append.mp early with past | now
        · exact .inl past
        · exact .inr ⟨store, List.mem_cons_self, Reload.gives_of_told? (Sweep.told_of_received now)⟩
      · exact .inr ⟨met, List.mem_cons_of_mem store later, named ▸ gives⟩

end Course

end QueryRewriting

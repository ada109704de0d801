import Mathlib.Tactic.IntervalCases
import QueryRewriting.Proofs.Cache.Books
import QueryRewriting.Proofs.Cache.Freshness

/-! # A partition asked one thing after the other

The partition starts empty. Calls are made one after the other, and between them the store is
written, fails and recovers. Whoever sees only the calls and their answers can tell in advance what
the next one comes to: it is what a plain map would answer, as long as the marks of single ids are
told apart and no trace is met. -/

namespace QueryRewriting

/-- A partition that has just been opened over a store, and what happens to it turn by turn. -/
structure Session where
  kinds : Kinds
  partition : Partition
  maxBytes : Option Nat
  store : Store
  turns : Nat → Turn

namespace Session

/-- The store and the cache before a turn. -/
def state (session : Session) : Nat → Store × PartitionCache
  | 0 => (session.store, .empty session.partition session.maxBytes)
  | t + 1 => ((session.state t).2.serve session.kinds (session.state t).1 (session.turns t)).2

/-- The cache at a time of a session. -/
def cache (session : Session) (t : Nat) : PartitionCache := (session.state t).2

/-- The plain map that the partition shows before a turn. -/
def view (session : Session) (t : Nat) : PlainMap := (session.cache t).view (session.state t).1

/-- What the partition answers to a turn. -/
def answer (session : Session) (t : Nat) : Answer :=
  ((session.cache t).serve session.kinds (session.state t).1 (session.turns t)).1

/-- A plain map that takes the same turns. -/
def plain (session : Session) : Nat → PlainMap
  | 0 => { store := session.store, held := fun _ => none }
  | t + 1 => ((session.plain t).serve session.kinds (session.turns t)).2

/-- What the plain map answers to a turn. -/
def expected (session : Session) (t : Nat) : Answer :=
  ((session.plain t).serve session.kinds (session.turns t)).1

/-- The ids that were marked since everything was last cleared. -/
def marked (session : Session) : Nat → Finset String
  | 0 => ∅
  | t + 1 => (session.plain t).note (session.marked t) (session.turns t)

/-- Before a turn there were never too many ids marked since everything was last cleared. -/
def FewMarks (session : Session) (t : Nat) : Prop :=
  ∀ s ≤ t, (session.marked s).card ≤ Marks.maxTracked

/-- What is remembered of the partition before a turn. -/
def books (session : Session) : Nat → Books
  | 0 => .blank
  | t + 1 => (session.books t).next (session.view t) (session.turns t) (session.answer t)
      (session.view (t + 1))

/-- Before a time something began that has stayed since. -/
def Since (begins stays : Nat → Prop) (t : Nat) : Prop :=
  ∃ s < t, begins s ∧ ∀ r, s < r → r < t → stays r

/-- A mark of one id too many counted for all, and the id was neither looked up nor renewed since.
What is held for it, if anything, is older than that mark. -/
def Outdated (session : Session) (t : Nat) (id : String) : Prop :=
  Since (fun s => (session.books s).overflows (session.view s) (session.turns s) = true)
    (fun r => (session.turns r).renews (session.answer r) id = false) t

/-- An id was held when everything was cleared, and has been neither held nor invalidated since, nor
was the cache settled. -/
def Lingers (session : Session) (t : Nat) (id : String) : Prop :=
  Since (fun s => session.turns s = .ask .invalidateAll ∧ (session.view s).holds id = true)
    (fun r => session.turns r ≠ .ask (.invalidate id) ∧ session.turns r ≠ .settle ∧
      (session.view (r + 1)).holds id = false) t

/-- An invalidation meets nothing but the trace of an instance that went when everything was
cleared. -/
def MeetsTrace (session : Session) (t : Nat) : Prop :=
  ∃ id, session.turns t = .ask (.invalidate id) ∧ session.Lingers t id

/-- Nothing is evicted: the cache has some room, and what it holds is never too heavy. -/
structure Roomy (session : Session) : Prop where
  room : session.maxBytes ≠ some 0
  light : ∀ t, (session.cache t).Light

variable {session : Session} {t : Nat}

/-- Where nothing is marked, there are few marks. -/
theorem fewMarks_of_unmarked (unmarked : ∀ s ≤ t, session.marked s = ∅) : session.FewMarks t := by
  intro s bound
  rw [unmarked s bound]
  exact Nat.zero_le _

/-! ## Since -/

theorem not_since_zero (begins stays : Nat → Prop) : ¬ Since begins stays 0 :=
  fun ⟨_, before, _⟩ => absurd before (Nat.not_lt_zero _)

/-- What is so at the next time begins now, or was so and stays. -/
theorem since_succ_iff {begins stays : Nat → Prop} :
    Since begins stays (t + 1) ↔ begins t ∨ (Since begins stays t ∧ stays t) := by
  constructor
  · rintro ⟨s, before, begun, stayed⟩
    rcases Nat.lt_succ_iff_lt_or_eq.mp before with earlier | rfl
    · have kept (r : Nat) (after : s < r) (ahead : r < t) : stays r :=
        stayed r after (Nat.lt_succ_of_lt ahead)
      exact .inr ⟨⟨s, earlier, begun, kept⟩, stayed t earlier (Nat.lt_succ_self t)⟩
    · exact .inl begun
  · rintro (begun | ⟨⟨s, before, begun, stayed⟩, last⟩)
    · exact ⟨t, Nat.lt_succ_self t, begun, fun r after ahead => by omega⟩
    · refine ⟨s, Nat.lt_succ_of_lt before, begun, fun r after ahead => ?_⟩
      rcases Nat.lt_succ_iff_lt_or_eq.mp ahead with earlier | rfl
      · exact stayed r after earlier
      · exact last

/-! ## Books and partitions -/

/-- A session with a cache of unbounded size. -/
theorem roomy_of_unbounded (unbounded : session.maxBytes = none) : session.Roomy := by
  have settled (t : Nat) : (session.cache t).Quiet session.kinds (fun _ _ => True) ∧
      (session.cache t).maxBytes = none := by
    induction t with
    | zero => exact ⟨PartitionCache.quiet_empty _ _, unbounded⟩
    | succ t ih =>
        obtain ⟨quiet, free⟩ := ih
        exact ⟨quiet.serve (PartitionCache.light_of_unbounded free) _ _,
          (quiet.maxBytes_serve _ _).trans free⟩
  refine ⟨fun full => ?_, fun t => PartitionCache.light_of_unbounded (settled t).2⟩
  cases unbounded.symm.trans full

variable (session)

/-- An id is seen exactly if the cache contains it. -/
theorem holds_view (t : Nat) (id : String) :
    (session.view t).holds id = (session.cache t).contains id :=
  PartitionCache.holds_view _ _ _

/-- The books of a session say which ids are outdated. -/
theorem outdated_iff (t : Nat) (id : String) :
    (session.books t).outdated id = true ↔ session.Outdated t id := by
  induction t with
  | zero => exact iff_of_false Bool.false_ne_true (not_since_zero _ _)
  | succ t ih =>
      rw [Outdated, since_succ_iff, books, Books.outdated_next_iff, ih]
      rfl

/-- The books of a session say which ids linger. -/
theorem traced_iff (t : Nat) (id : String) :
    (session.books t).traced id = true ↔ session.Lingers t id := by
  induction t with
  | zero => exact iff_of_false Bool.false_ne_true (not_since_zero _ _)
  | succ t ih =>
      have cleared (clears : session.turns t = .ask .invalidateAll) :
          (session.view (t + 1)).holds id = false := by
        rw [view, cache, state, clears]
        rfl
      rw [Lingers, since_succ_iff, ← Lingers, ← ih, books, Books.traced_next_iff]
      generalize session.turns t = turn at cleared ⊢
      cases turn with
      | ask request =>
          cases request with
          | invalidateAll => simp [Books.goes, cleared rfl]
          | invalidate key =>
              simp [Books.goes, @eq_comm String key id, and_assoc, and_left_comm, and_comm]
          | _ => simp [Books.goes]
      | _ => simp [Books.goes]

section Roomy

variable {session} (roomy : session.Roomy)
include roomy

/-- Between the turns of a session its cache is quiet. -/
theorem quiet_cache (t : Nat) : (session.cache t).Quiet session.kinds fun _ _ => True := by
  induction t with
  | zero => exact PartitionCache.quiet_empty _ _
  | succ t ih => exact ih.serve (roomy.light t) _ _

/-- The cache of a session has room. -/
theorem room_cache (t : Nat) : (session.cache t).maxBytes ≠ some 0 := by
  have same : (session.cache t).maxBytes = session.maxBytes := by
    induction t with
    | zero => rfl
    | succ t ih => exact ((quiet_cache roomy t).maxBytes_serve _ _).trans ih
  rw [same]
  exact roomy.room

/-- The cache of a session is in step with its books. -/
theorem matches_books (t : Nat) : (session.cache t).Matches (session.books t) := by
  induction t with
  | zero =>
      refine (PartitionCache.Accords.empty _ _).congr rfl (fun _ _ => Iff.rfl) fun _ => ?_
      exact iff_of_false Bool.false_ne_true id
  | succ t ih =>
      exact ih.serve (quiet_cache roomy t) (room_cache roomy t) (roomy.light t) _ _

/-! ## Turns -/

/-- What a turn does to the plain map that the partition shows, by the books. -/
theorem serve_books (t : Nat) :
    session.view (t + 1) =
        (((session.books t).shown (session.view t) (session.turns t)).serve session.kinds
          (session.turns t)).2 ∧
      session.answer t =
        if (session.books t).meetsTrace (session.turns t) then .dropped true
        else (((session.books t).shown (session.view t) (session.turns t)).serve session.kinds
          (session.turns t)).1 := by
  have agrees := matches_books roomy t
  rw [← agrees.meetsTrace_eq, view, view, ← agrees.shown_eq (quiet_cache roomy t)]
  exact (quiet_cache roomy t).view_serve (room_cache roomy t) (roomy.light t) _ _

omit roomy in
/-- A turn that looks up nothing outdated is shown what is seen. -/
theorem shown_of_current (t : Nat)
    (current : ∀ id, session.turns t = .ask (.lookup id) → ¬ session.Outdated t id) :
    (session.books t).shown (session.view t) (session.turns t) = session.view t := by
  cases turned : session.turns t with
  | ask request =>
      cases request with
      | lookup id => exact if_neg ((session.outdated_iff t id).not.mpr (current id turned))
      | _ => rfl
  | _ => rfl

omit roomy in
/-- A turn meets a trace exactly if it asks for what lingers. -/
theorem meetsTrace_iff (t : Nat) :
    (session.books t).meetsTrace (session.turns t) = true ↔ session.MeetsTrace t := by
  constructor
  · intro meets
    cases turned : session.turns t with
    | ask request =>
        rw [turned] at meets
        cases request with
        | invalidate id => exact ⟨id, turned, (session.traced_iff t id).mp meets⟩
        | _ => cases meets
    | _ =>
        rw [turned] at meets
        cases meets
  · rintro ⟨id, turned, lingers⟩
    rw [turned]
    exact (session.traced_iff t id).mpr lingers

/-- A partition answers as the plain map that it shows, unless it meets a trace. -/
theorem answer_iff (t : Nat)
    (current : ∀ id, session.turns t = .ask (.lookup id) → ¬ session.Outdated t id) :
    session.answer t = ((session.view t).serve session.kinds (session.turns t)).1 ↔
      ¬ session.MeetsTrace t := by
  have answers := (serve_books roomy t).2
  rw [shown_of_current t current] at answers
  by_cases meets : (session.books t).meetsTrace (session.turns t) = true
  · obtain ⟨id, turned, lingers⟩ := (meetsTrace_iff t).mp meets
    have traced := (session.traced_iff t id).mpr lingers
    have missing : (session.view t).holds id = false := by
      rw [holds_view]
      exact PartitionCache.Accords.not_contains (matches_books roomy t) traced
    refine iff_of_false ?_ (not_not_intro ⟨id, turned, lingers⟩)
    rw [answers, if_pos meets, turned, PlainMap.serve, PlainMap.invalidate, missing]
    intro same
    cases same
  · rw [answers, if_neg meets]
    exact iff_of_true rfl ((meetsTrace_iff t).not.mp meets)

/-- As long as few ids are marked the partition shows the plain map, every mark is told apart and
nothing is outdated. -/
theorem view_eq_plain (t : Nat) (few : session.FewMarks t) :
    session.view t = session.plain t ∧ (session.books t).tracked = session.marked t ∧
      ∀ id, (session.books t).outdated id = false := by
  induction t with
  | zero => exact ⟨rfl, rfl, fun _ => rfl⟩
  | succ t ih =>
      obtain ⟨same, tracked, current⟩ := ih fun s before => few s (Nat.le_succ_of_le before)
      have noted : (session.view t).note (session.books t).tracked (session.turns t) =
          session.marked (t + 1) := by
        rw [same, tracked, marked]
      have fits : (session.books t).overflows (session.view t) (session.turns t) = false := by
        rw [Books.overflows, noted]
        exact decide_eq_false (few (t + 1) (Nat.le_refl _)).not_gt
      refine ⟨?_, ?_, fun id => ?_⟩
      · have shows := (serve_books roomy t).1
        rw [shown_of_current t, same] at shows
        · exact shows
        · intro id _
          rw [← outdated_iff, current id]
          exact Bool.false_ne_true
      · rw [books, Books.tracked_next, fits, noted]
        exact if_neg Bool.false_ne_true
      · rw [← Bool.not_eq_true, books, Books.outdated_next_iff, fits, current id]
        rintro (full | ⟨old, _⟩)
        · cases full
        · cases old

/-- **A partition is a plain map of what was loaded last.** Whatever is asked and whatever happens
to the store, a turn does to what the partition shows what it does to a plain map, and answers the
same. There are two exceptions: what is outdated counts as absent once it is looked up, and an
invalidation that meets a trace answers that something was there. As long as there are never too
many marks between two clears, the partition shows all along the plain map that takes the same
turns: it serves the same, holds the same, and reads the store as often. -/
theorem serves_plain_map (t : Nat) :
    (∀ id, session.turns t = .ask (.lookup id) → session.Outdated t id →
      (session.answer t, session.view (t + 1)) =
        ((session.view t).set id none).serve session.kinds (session.turns t)) ∧
    ((∀ id, session.turns t = .ask (.lookup id) → ¬ session.Outdated t id) →
      session.view (t + 1) = ((session.view t).serve session.kinds (session.turns t)).2 ∧
      (session.answer t = ((session.view t).serve session.kinds (session.turns t)).1 ↔
        ¬ session.MeetsTrace t)) ∧
    (session.FewMarks t →
      session.view t = session.plain t ∧
      (∀ id, (session.cache t).contains id = (session.plain t).holds id) ∧
      (session.answer t = session.expected t ↔ ¬ session.MeetsTrace t)) := by
  obtain ⟨shows, answers⟩ := serve_books roomy t
  refine ⟨?_, ?_, ?_⟩
  · intro id turned outdated
    rw [turned] at shows answers
    have met : (session.books t).shown (session.view t) (.ask (.lookup id)) =
        (session.view t).set id none := if_pos ((session.outdated_iff t id).mpr outdated)
    rw [met] at shows answers
    rw [turned, shows]
    exact Prod.ext answers rfl
  · intro current
    rw [shown_of_current t current] at shows
    exact ⟨shows, answer_iff roomy t current⟩
  · intro few
    obtain ⟨same, _, current⟩ := view_eq_plain roomy t few
    refine ⟨same, fun id => ?_, ?_⟩
    · rw [← same, holds_view]
    · rw [expected, ← same]
      refine answer_iff roomy t fun id _ => ?_
      rw [← outdated_iff, current id]
      exact Bool.false_ne_true

end Roomy

/-! ### Turns from a list -/

/-- A session that takes its first turns from a list. After them the store just works. -/
def ofTurns (turns : List Turn) : Session where
  kinds := ⟨[Kind.noop]⟩
  partition := ⟨"products", 0⟩
  maxBytes := none
  store := .empty
  turns t := turns[t]?.getD (.outage false)

/-- An instance is renewed once its definition has changed, and kept when the store has failed. -/
def renewedSession : Session :=
  .ofTurns [.write [("r", History.quietDefinition.toDocument)], .ask (.lookup "r"),
    .write [("r", History.loggedDefinition.toDocument)], .ask (.reload "r"), .outage true,
    .ask (.reload "r"), .ask (.lookup "r")]

/-- A session with few marks is one of the plain map, up to its sixth answer. -/
theorem renewedSession_plain :
    renewedSession.FewMarks 6 ∧ renewedSession.view 6 = renewedSession.plain 6 ∧
      renewedSession.answer 6 = renewedSession.expected 6 := by
  have few : renewedSession.FewMarks 6 := fewMarks_of_unmarked fun s bound => by
    interval_cases s <;> rfl
  obtain ⟨same, _, answers⟩ := (serves_plain_map (roomy_of_unbounded rfl) 6).2.2 few
  refine ⟨few, same, answers.mpr ?_⟩
  rintro ⟨id, turned, _⟩
  cases turned

/-- Everything is cleared while an id is held, and then the id is invalidated. -/
def clearedSession : Session :=
  .ofTurns [.write [("r", History.quietDefinition.toDocument)], .ask (.lookup "r"),
    .ask .invalidateAll, .ask (.invalidate "r")]

/-- An invalidation answers that something was there though the partition holds nothing. -/
theorem cleared_still_dropped :
    ¬ ∀ (session : Session) (t : Nat), session.Roomy → session.FewMarks t →
      session.answer t = session.expected t := by
  intro same
  have few : clearedSession.FewMarks 3 := fewMarks_of_unmarked fun s bound => by
    interval_cases s <;> rfl
  have answers : Answer.dropped true = .dropped false :=
    same clearedSession 3 (roomy_of_unbounded rfl) few
  cases answers

end Session

end QueryRewriting

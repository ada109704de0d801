import QueryRewriting.Proofs.Cache.Staleness

/-! # Marks and the history behind them

A table of marks forgets the marks of single ids wherever a mark of all ids takes their place. What
it answers is still what the whole list of the calls that made it would answer: an id counts as
invalidated since a time just if one of the later calls counts for it. -/

namespace QueryRewriting

/-- A call that places a mark. -/
inductive Marking where
  | one (id : String)
  | all
  deriving DecidableEq, Repr

namespace Marking

/-- The marks after one more call. -/
def apply (marks : Marks) : Marking → Marks
  | .one id => marks.mark id
  | .all => marks.markAll

/-- The ids that are marked apart after one more call. There are none once all ids are marked, or
one more would be one too many. -/
def track (ids : Finset String) : Marking → Finset String
  | .one id => if Marks.maxTracked < (insert id ids).card then ∅ else insert id ids
  | .all => ∅

/-- A call counts for an id: it marks this id, or all ids, or a new one although as many as possible
are marked apart. -/
def Counts (ids : Finset String) (id : String) : Marking → Prop
  | .one other => other = id ∨ (ids.card = Marks.maxTracked ∧ other ∉ ids)
  | .all => True

/-- The ids that some calls leave marked apart. -/
def tracked (calls : List Marking) : Finset String := calls.foldl track ∅

/-- A call that was made when the clock stood at a time, or later, counts for an id. -/
def CountsSince (calls : List Marking) (id : String) (time : Nat) : Prop :=
  ∃ i call, time ≤ i ∧ calls[i]? = some call ∧ call.Counts (tracked (calls.take i)) id

variable {calls : List Marking} {call : Marking} {id : String} {time : Nat}

theorem tracked_concat (calls : List Marking) (call : Marking) :
    tracked (calls ++ [call]) = track (tracked calls) call := by
  rw [tracked, List.foldl_append]
  rfl

/-- With one more call nothing is added to what counts but this call. -/
theorem countsSince_concat_iff :
    CountsSince (calls ++ [call]) id time ↔
      CountsSince calls id time ∨ (time ≤ calls.length ∧ call.Counts (tracked calls) id) := by
  constructor
  · rintro ⟨i, made, late, there, counts⟩
    rcases Nat.lt_or_ge i calls.length with before | behind
    · rw [List.getElem?_append_left before] at there
      rw [List.take_append_of_le_length before.le] at counts
      exact .inl ⟨i, made, late, there, counts⟩
    · have last : i < (calls ++ [call]).length := (List.getElem?_eq_some_iff.mp there).1
      have same : i = calls.length := by
        rw [List.length_append, List.length_singleton] at last
        omega
      subst same
      rw [List.getElem?_concat_length] at there
      rw [List.take_left] at counts
      exact .inr ⟨late, Option.some.inj there ▸ counts⟩
  · rintro (⟨i, made, late, there, counts⟩ | ⟨late, counts⟩)
    · have before := (List.getElem?_eq_some_iff.mp there).1
      refine ⟨i, made, late, ?_, ?_⟩
      · rw [List.getElem?_append_left before, there]
      · rwa [List.take_append_of_le_length before.le]
    · refine ⟨calls.length, call, late, List.getElem?_concat_length, ?_⟩
      rwa [List.take_left]

/-- There are no more ids with marks than calls. -/
theorem card_tracked_le (calls : List Marking) : (tracked calls).card ≤ calls.length := by
  induction calls using List.reverseRecOn with
  | nil => exact le_rfl
  | append_singleton calls call ih =>
      rw [tracked_concat, List.length_append, List.length_singleton]
      cases call with
      | all => exact Nat.zero_le _
      | one id =>
          rw [track]
          split
          · exact Nat.zero_le _
          · exact (Finset.card_insert_le id _).trans (Nat.succ_le_succ ih)

/-- Marks of different ids are told apart as long as there is room. -/
theorem tracked_map_one {ids : List String} (distinct : ids.Nodup)
    (few : ids.length ≤ Marks.maxTracked) : tracked (ids.map .one) = ids.toFinset := by
  induction ids using List.reverseRecOn with
  | nil => rfl
  | append_singleton ids id ih =>
      have fewer : ids.length ≤ Marks.maxTracked := by
        rw [List.length_append] at few
        omega
      have same := ih (distinct.sublist (List.sublist_append_left ids [id])) fewer
      have joined : insert id ids.toFinset = (ids ++ [id]).toFinset := by
        rw [List.toFinset_append]
        exact Finset.insert_eq id ids.toFinset ▸ Finset.union_comm ..
      have room : ¬ Marks.maxTracked < (ids ++ [id]).toFinset.card := by
        rw [List.toFinset_card_of_nodup distinct]
        omega
      rw [List.map_append, List.map_singleton, tracked_concat, same, track, joined, if_neg room]

end Marking

namespace Marks

variable {marks : Marks} {ids : Finset String} {calls : List Marking} {id other : String}
  {stamp time : Nat}

/-- The table that some calls make. -/
def after (calls : List Marking) : Marks := calls.foldl Marking.apply empty

/-- All marks of single ids are later than the one of all ids, and none is later than the clock. -/
structure Layered (marks : Marks) : Prop where
  wellFormed : marks.WellFormed
  apart : ∀ id time, marks.byId.lookup id = some time → marks.all < time

/-! ## One call -/

theorem layered_empty : empty.Layered := ⟨wellFormed_empty, fun _ _ found => nomatch found⟩

theorem layered_markAll : marks.markAll.Layered :=
  ⟨wellFormed_markAll, fun _ _ found => nomatch found⟩

/-- A mark of an id leaves the marks layered, also if it marks all. -/
theorem Layered.mark (layered : marks.Layered) (id : String) : (marks.mark id).Layered := by
  refine ⟨layered.wellFormed.mark id, ?_⟩
  unfold Marks.mark
  split
  · exact layered_markAll.apart
  · intro other time found
    by_cases same : other = id
    · subst same
      rw [lookup_setTime_self] at found
      exact (Nat.lt_succ_of_le layered.wellFormed.all_le).trans_eq (Option.some.inj found)
    · rw [lookup_setTime_of_ne _ _ same] at found
      exact layered.apart other time found

/-- Every call leaves the marks layered. -/
theorem Layered.apply (layered : marks.Layered) (call : Marking) : (call.apply marks).Layered := by
  cases call with
  | one id => exact layered.mark id
  | all => exact layered_markAll

/-- Every call keeps account of the ids with marks. -/
theorem Tracks.apply (tracks : marks.Tracks ids) (call : Marking) :
    (call.apply marks).Tracks (call.track ids) := by
  cases call with
  | one id => exact tracks.mark id
  | all => exact tracks_markAll marks

/-- Every call moves the clock on by one. -/
theorem clock_apply (marks : Marks) (call : Marking) :
    (call.apply marks).clock = marks.clock + 1 := by
  cases call with
  | one id => exact clock_mark marks id
  | all => rfl

/-- No call forgets an invalidation. -/
theorem WellFormed.precedes_apply (wf : marks.WellFormed) (call : Marking) :
    marks.Precedes (call.apply marks) := by
  cases call with
  | one id => exact wf.precedes_mark id
  | all => exact wf.precedes_markAll

/-- There is no room for a new id just if as many as possible are marked apart. -/
theorem Tracks.overflows_iff (tracks : marks.Tracks ids) :
    maxTracked < (insert id ids).card ↔ ids.card = maxTracked ∧ id ∉ ids := by
  have few := tracks.few
  by_cases member : id ∈ ids
  · rw [Finset.insert_eq_of_mem member]
    exact ⟨fun many => (few.not_gt many).elim, fun full => (full.2 member).elim⟩
  · rw [Finset.card_insert_of_notMem member]
    exact ⟨fun many => ⟨by omega, member⟩, fun full => by omega⟩

/-- A mark of all ids adds everything that was read by now. -/
theorem invalidatedSince_markAll_iff (wf : marks.WellFormed) :
    marks.markAll.invalidatedSince id stamp = true ↔
      marks.invalidatedSince id stamp = true ∨ stamp ≤ marks.clock := by
  constructor
  · exact fun invalidated => .inr (Nat.le_of_lt_succ (wellFormed_markAll.lt_clock invalidated))
  · rintro (before | known)
    · exact wf.precedes_markAll.keeps id stamp before
    · exact invalidatedSince_markAll known

/-- **A call makes invalid what it counts for**, and makes nothing valid again. -/
theorem invalidatedSince_apply_iff (wf : marks.WellFormed) (tracks : marks.Tracks ids)
    (call : Marking) :
    (call.apply marks).invalidatedSince id stamp = true ↔
      marks.invalidatedSince id stamp = true ∨ (stamp ≤ marks.clock ∧ call.Counts ids id) := by
  cases call with
  | all =>
      exact (invalidatedSince_markAll_iff wf).trans (or_congr_right (and_iff_left trivial).symm)
  | one other =>
      by_cases full : maxTracked < (insert other ids).card
      -- The mark of one id too many is one of all ids.
      · have counts : (Marking.one other).Counts ids id := .inr (tracks.overflows_iff.mp full)
        rw [Marking.apply, tracks.mark_full full, invalidatedSince_markAll_iff wf,
          and_iff_left counts]
      · have counts : (Marking.one other).Counts ids id ↔ other = id :=
          or_iff_left (tracks.overflows_iff.not.mp full)
        rw [counts]
        by_cases same : other = id
        · subst same
          rw [and_iff_left rfl]
          constructor
          · intro invalidated
            have before := (wf.mark other).lt_clock invalidated
            rw [clock_mark] at before
            exact .inr (Nat.le_of_lt_succ before)
          · rintro (before | known)
            · exact (wf.precedes_mark other).keeps other stamp before
            · exact invalidatedSince_mark_self known
        · have apart : (marks.mark other).all = marks.all := by rw [tracks.mark_apart full]
          rw [Marking.apply, wf.invalidatedSince_mark_of_ne (Ne.symm same) apart]
          exact (or_iff_left fun counted => same counted.2).symm

/-! ## Many calls -/

theorem after_concat (calls : List Marking) (call : Marking) :
    after (calls ++ [call]) = call.apply (after calls) := by
  rw [after, List.foldl_append]
  rfl

/-- The clock counts the calls. -/
theorem clock_after (calls : List Marking) : (after calls).clock = calls.length := by
  induction calls using List.reverseRecOn with
  | nil => rfl
  | append_singleton calls call ih =>
      rw [after_concat, clock_apply, ih, List.length_append, List.length_singleton]

/-- The marks are layered after any calls. -/
theorem layered_after (calls : List Marking) : (after calls).Layered := by
  induction calls using List.reverseRecOn with
  | nil => exact layered_empty
  | append_singleton calls call ih =>
      rw [after_concat]
      exact ih.apply call

/-- After any calls the marks are those of the ids that the calls have left. -/
theorem tracks_after (calls : List Marking) : (after calls).Tracks (Marking.tracked calls) := by
  induction calls using List.reverseRecOn with
  | nil => exact tracks_empty
  | append_singleton calls call ih =>
      rw [after_concat, Marking.tracked_concat]
      exact ih.apply call

/-- No later call forgets an invalidation. -/
theorem precedes_after (calls more : List Marking) :
    (after calls).Precedes (after (calls ++ more)) := by
  induction more using List.reverseRecOn with
  | nil =>
      rw [List.append_nil]
      exact .refl _
  | append_singleton more call ih =>
      rw [← List.append_assoc, after_concat]
      exact ih.trans ((layered_after _).wellFormed.precedes_apply call)

/-- **The table answers as the history of calls does.** -/
theorem invalidatedSince_after_iff :
    (after calls).invalidatedSince id stamp = true ↔ Marking.CountsSince calls id stamp := by
  induction calls using List.reverseRecOn with
  | nil =>
      refine iff_of_false (fun invalidated => ?_) ?_
      · exact absurd (wellFormed_empty.lt_clock invalidated) (Nat.not_lt_zero stamp)
      · rintro ⟨i, call, _, there, _⟩
        cases there
  | append_singleton calls call ih =>
      rw [after_concat, invalidatedSince_apply_iff (layered_after calls).wellFormed
        (tracks_after calls), Marking.countsSince_concat_iff, ih, clock_after]

/-- **Marks remember all that their history tells.** After any calls the clock shows how many there
were; at most 4096 ids are marked apart, and they are those that the history says; each mark of a
single id is later than the one of all ids and not later than the clock. An id counts as invalidated
since a time just if a later call was a mark of this id, or of all ids, or of a new id while 4096
were marked apart; and what counts as invalidated does so for ever. -/
theorem marks_answer_history (calls : List Marking) :
    (after calls).clock = calls.length ∧
    (((after calls).byId.map Prod.fst).Nodup ∧ (after calls).byId.length ≤ 4096 ∧
      ∀ id, (after calls).tracks id = true ↔ id ∈ Marking.tracked calls) ∧
    (∀ id time, (after calls).byId.lookup id = some time →
      (after calls).all < time ∧ time ≤ (after calls).clock) ∧
    (∀ id stamp, (after calls).invalidatedSince id stamp = true ↔
      ∃ i, stamp ≤ i ∧ (calls[i]? = some (.one id) ∨ calls[i]? = some .all ∨
        ∃ other, calls[i]? = some (.one other) ∧ other ∉ Marking.tracked (calls.take i) ∧
          (Marking.tracked (calls.take i)).card = 4096)) ∧
    ∀ more id stamp, (after calls).invalidatedSince id stamp = true →
      (after (calls ++ more)).invalidatedSince id stamp = true := by
  have tracks := tracks_after calls
  have layered := layered_after calls
  refine ⟨clock_after calls, ⟨tracks.distinct, ?_, fun id => tracks.tracks_iff⟩, ?_, ?_, ?_⟩
  · rw [tracks.length_eq]
    exact tracks.few
  · exact fun id time found =>
      ⟨layered.apart id time found, layered.wellFormed.time_le id time found⟩
  · intro id stamp
    rw [invalidatedSince_after_iff]
    refine exists_congr fun i => ⟨?_, ?_⟩
    · rintro ⟨call, late, there, counts⟩
      refine ⟨late, ?_⟩
      cases call with
      | all => exact .inr (.inl there)
      | one other =>
          rcases counts with rfl | ⟨full, fresh⟩
          · exact .inl there
          · exact .inr (.inr ⟨other, there, fresh, full⟩)
    · rintro ⟨late, there | there | ⟨other, there, fresh, full⟩⟩
      · exact ⟨.one id, late, there, .inl rfl⟩
      · exact ⟨.all, late, there, trivial⟩
      · exact ⟨.one other, late, there, .inr ⟨full, fresh⟩⟩
  · exact fun more id stamp => (precedes_after calls more).keeps id stamp

/-! ### One id too many -/

/-- As many different ids as are asked for. -/
def crowd (n : Nat) : List String :=
  (List.range n).map fun k => String.ofList (List.replicate k 'a')

theorem crowd_succ (n : Nat) :
    crowd (n + 1) = crowd n ++ [String.ofList (List.replicate n 'a')] := by
  rw [crowd, List.range_succ, List.map_append]
  rfl

/-- A crowd has as many ids as it is asked for. -/
theorem length_crowd (n : Nat) : (crowd n).length = n := by
  rw [crowd, List.length_map, List.length_range]

/-- No two ids of a crowd are the same. -/
theorem nodup_crowd (n : Nat) : (crowd n).Nodup := by
  refine List.nodup_range.map fun i j same => ?_
  have letters := String.ofList_injective same
  simpa using congrArg List.length letters

/-- Marks of 4096 ids concern nobody else; the mark of one more counts for an id that was never
marked, and after it no id is marked apart. -/
theorem crowd_answers_history :
    (after ((crowd 4096).map .one)).invalidatedSince "b" 0 = false ∧
      (after ((crowd 4097).map .one)).invalidatedSince "b" 4096 = true ∧
      (after ((crowd 4097).map .one)).tracks "a" = false := by
  obtain ⟨-, -, -, before, -⟩ := marks_answer_history ((crowd 4096).map .one)
  obtain ⟨-, ⟨-, -, apart⟩, -, behind, -⟩ := marks_answer_history ((crowd 4097).map .one)
  obtain ⟨last, split⟩ : ∃ last, crowd 4097 = crowd 4096 ++ [last] := ⟨_, crowd_succ 4096⟩
  have more : (crowd 4097).map Marking.one = (crowd 4096).map .one ++ [.one last] := by
    rw [split, List.map_append, List.map_singleton]
  have length : ((crowd 4096).map Marking.one).length = 4096 := by
    rw [List.length_map, length_crowd]
  have known : Marking.tracked ((crowd 4096).map .one) = (crowd 4096).toFinset :=
    Marking.tracked_map_one (nodup_crowd _) (length_crowd _).le
  have full : (Marking.tracked ((crowd 4096).map .one)).card = 4096 := by
    rw [known, List.toFinset_card_of_nodup (nodup_crowd _), length_crowd]
  have fresh : last ∉ Marking.tracked ((crowd 4096).map .one) := by
    have distinct : (crowd 4096 ++ [last]).Nodup := split ▸ nodup_crowd 4097
    rw [known, List.mem_toFinset]
    exact fun member => List.disjoint_of_nodup_append distinct member (List.mem_singleton_self last)
  refine ⟨Bool.eq_false_iff.mpr fun invalidated => ?_, (behind "b" 4096).mpr ?_,
    Bool.eq_false_iff.mpr fun told => ?_⟩
  -- Up to the limit only the mark of an id itself can tell, and no id of the crowd is `b`.
  · obtain ⟨i, -, own | wide | ⟨other, there, -, many⟩⟩ := (before "b" 0).mp invalidated
    · obtain ⟨id, member, same⟩ := List.mem_map.mp (List.mem_of_getElem? own)
      obtain ⟨k, -, rfl⟩ := List.mem_map.mp member
      have letters : List.replicate k 'a' = ['b'] :=
        String.ofList_injective (Marking.one.inj same)
      have letter : 'b' ∈ List.replicate k 'a' := letters ▸ List.mem_singleton_self 'b'
      cases List.eq_of_mem_replicate letter
    · obtain ⟨id, -, same⟩ := List.mem_map.mp (List.mem_of_getElem? wide)
      cases same
    · have inside := (List.getElem?_eq_some_iff.mp there).1
      have few := Marking.card_tracked_le (((crowd 4096).map .one).take i)
      rw [many, List.length_take, length] at few
      omega
  · rw [more]
    refine ⟨4096, le_rfl, .inr (.inr ⟨last, ?_, ?_⟩)⟩
    · have there : ((crowd 4096).map Marking.one ++ [.one last])[((crowd 4096).map
          Marking.one).length]? = some (.one last) := List.getElem?_concat_length
      rwa [length] at there
    · rw [List.take_left' length]
      exact ⟨fresh, full⟩
  · have many :
        Marks.maxTracked < (insert last (Marking.tracked ((crowd 4096).map .one))).card := by
      rw [Finset.card_insert_of_notMem fresh, full, Marks.maxTracked]
      omega
    rw [apart, more, Marking.tracked_concat, Marking.track, if_pos many] at told
    exact Finset.notMem_empty "a" told

end Marks

end QueryRewriting

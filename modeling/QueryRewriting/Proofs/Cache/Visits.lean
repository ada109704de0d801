import QueryRewriting.Proofs.Cache.PlainMap

/-! # Visits of a partition

A reload visits a partition, and nothing else goes on there meanwhile. The store may change between
any two steps of the visit; what the visit comes to follows from the partition and from the one
reply that it receives, if it reads at all. -/

namespace QueryRewriting

/-- What a store replies to a read. -/
abbrev StoreReply := Except StoreError (Option Definition)

/-- What a store may reply: what it holds for an id, or that it is out of order. -/
def Store.Gives (store : Store) (id : String) (reply : StoreReply) : Prop :=
  reply = store.find? id ∨ reply = .error outage

/-- The error with which a reload answers to a reply: a definition that is gone is none. -/
def Kinds.refusal? (kinds : Kinds) (id : String) (reply : StoreReply) : Option LoadError :=
  match kinds.loaded id reply with
  | .ok _ => none
  | .error (.notFound _) => none
  | .error e => some e

namespace Reload

/-- A reload is about to ask the store. -/
def asks : Reload → Bool
  | loading _ (.asking _) => true
  | _ => false

/-- The reply that a reload has just received. -/
def reply? : Reload → Option StoreReply
  | loading _ (.replied _ reply) => some reply
  | _ => none

/-- The reply that a reload is about to receive, with the store as it is. -/
def told? (id : String) (store : Store) : Reload → Option StoreReply
  | loading _ (.asking _) => if store.available then none else some (.error Store.outage)
  | loading _ (.reading _) => some (store.find? id)
  | _ => none

variable {kinds : Kinds} {id : String} {phase : Reload} {store : Store} {cache : PartitionCache}
  {reply : StoreReply}

/-- The reply after a step is the one that the visit was about to be told. -/
theorem reply?_step (kinds : Kinds) (id : String) (phase : Reload) (store : Store)
    (cache : PartitionCache) :
    (phase.step kinds id store cache).1.reply? = phase.told? id store := by
  have moves := transition_step kinds id phase store cache
  generalize phase.step kinds id store cache = result at moves ⊢
  cases moves with
  | moved _ moves =>
      cases moves with
      | admitted works => simp only [reply?, told?, works, if_true]
      | refused fails => simp only [reply?, told?, fails, Bool.false_eq_true, if_false]
      | _ => rfl
  | _ => rfl

/-- What a visit is told by a store that also let the read begin is what the store replies. -/
theorem eq_get_of_told? (reads : ∀ serial stamp, phase = loading serial (.reading stamp) →
    store.available = true) (told : phase.told? id store = some reply) :
    reply = (store.get id).1 := by
  rw [Store.get_eq]
  unfold told? at told
  split at told
  · split at told <;> rename_i works
    · cases told
    · rw [if_neg works]
      exact (Option.some.inj told).symm
  · rename_i serial stamp
    rw [if_pos (reads serial stamp rfl)]
    exact (Option.some.inj told).symm
  · cases told

/-- What a visit is told is what the store may reply. -/
theorem gives_of_told? (told : phase.told? id store = some reply) : store.Gives id reply := by
  unfold told? at told
  split at told
  · split at told <;> cases told
    exact .inr rfl
  · cases told
    exact .inl rfl
  · cases told

/-- A step leaves the store as it was, but for a read that is counted. -/
theorem store_step (kinds : Kinds) (id : String) (phase : Reload) (store : Store)
    (cache : PartitionCache) :
    (phase.step kinds id store cache).2.1 =
      { store with reads := store.reads + if phase.asks && store.available then 1 else 0 } := by
  have moves := transition_step kinds id phase store cache
  generalize phase.step kinds id store cache = result at moves ⊢
  cases moves with
  | @moved serial _ _ _ _ moves =>
      cases moves with
      | admitted works => simp only [asks, works, Bool.and_self, if_true]
      | @refused stamp fails =>
          have uncounted : ¬ (asks (loading serial (.asking stamp)) && store.available) = true := by
            rw [fails, Bool.and_false]
            exact Bool.false_ne_true
          rw [if_neg uncounted]
          rfl
      | _ => rfl
  | _ => rfl

/-- A reload reads only what a working store has let begin. -/
theorem available_of_reading {serial stamp : Nat}
    (reads : (phase.step kinds id store cache).1 = loading serial (.reading stamp)) :
    store.available = true := by
  have moves := transition_step kinds id phase store cache
  generalize phase.step kinds id store cache = result at moves reads
  cases moves with
  | moved _ moves =>
      cases moves with
      | admitted works => exact works
      | _ => cases reads
  | _ => cases reads

end Reload

namespace PartitionCache

variable {kinds : Kinds} {store : Store} {cache now : PartitionCache} {id : String}
  {reply : StoreReply} {reply? : Option StoreReply}

/-- What is true of every partition, also while calls are under way: no mark is later than the
clock, and something is held only where there is room. -/
structure Regular (cache : PartitionCache) : Prop where
  marks : cache.marks.WellFormed
  room : ∀ key made, cache.get? key = some made → cache.maxBytes ≠ some 0

/-- A quiet cache is regular. -/
theorem Quiet.regular {P : String → Definition → Prop} (quiet : cache.Quiet kinds P) :
    cache.Regular :=
  ⟨quiet.marks, quiet.room⟩

/-- A cache that holds something has room. -/
theorem Regular.room_of_contains (regular : cache.Regular) (held : cache.contains id = true) :
    cache.maxBytes ≠ some 0 := by
  obtain ⟨made, held⟩ := Option.isSome_iff_exists.mp held
  exact regular.room id made held

/-! ## What a visit comes to -/

/-- The instance that a visit makes of a reply, if it can. -/
def compiled (kinds : Kinds) (id : String) (cache : PartitionCache) (reply : StoreReply) :
    Except LoadError Instance :=
  Instance.compile kinds cache.nextSerial id cache.marks.clock reply

/-- How a visit ends, by the reply that it received; without one, if the id is not held. -/
def visit (kinds : Kinds) (id : String) (cache : PartitionCache) :
    Option StoreReply → Except LoadError Bool × PartitionCache
  | none => (.ok false, cache.mark id)
  | some reply => Reload.finish id cache.takeSerial.2 (cache.compiled kinds id reply)

/-- What a visit leaves, by the reply that it received. -/
structure Leaves (kinds : Kinds) (id : String) (reply? : Option StoreReply)
    (before after : PartitionCache) : Prop where
  own : match reply?.map (kinds.loaded id) with
    | some (.ok entry) => after.get? id = some
        { serial := before.nextSerial, id, definition := entry.definition
          rewriter := entry.rewriter, stamp := before.marks.clock }
    | some (.error (.notFound _)) => after.get? id = none
    | _ => after.get? id = before.get? id
  marks : after.marks = match reply?.map (kinds.loaded id) with
    | none => before.marks.mark id
    | some (.error (.notFound _)) => before.marks.mark id
    | _ => before.marks
  others : ∀ key, key ≠ id → after.get? key = before.get? key

/-- The outcome of a visit depends on whether it read, and on what it was told. -/
theorem visit_outcome (kinds : Kinds) (id : String) (cache : PartitionCache)
    (reply? : Option StoreReply) :
    (cache.visit kinds id reply?).1 =
      match reply? with
      | none => .ok false
      | some reply =>
        match kinds.refusal? id reply with
        | none => .ok true
        | some e => .error e := by
  cases reply? with
  | none => rfl
  | some reply =>
      simp only [visit, Kinds.refusal?, compiled,
        ← loaded_compile kinds cache.nextSerial id cache.marks.clock]
      cases Instance.compile kinds cache.nextSerial id cache.marks.clock reply with
      | ok made => rfl
      | error e => cases e <;> rfl

/-- What a visit has compiled is put under its id, and nowhere else. -/
theorem Regular.get?_insert_compiled {made : Instance} (regular : cache.Regular)
    (held : cache.contains id = true) (compiles : cache.compiled kinds id reply = .ok made) :
    (cache.takeSerial.2.insert made).get? id = some made ∧
      ∀ key, key ≠ id → (cache.takeSerial.2.insert made).get? key = cache.get? key := by
  obtain ⟨_, rfl, _⟩ := Instance.of_compile compiles
  have room : cache.takeSerial.2.maxBytes ≠ some 0 := regular.room_of_contains held
  exact ⟨get?_insert_self room made, fun key other => get?_insert_of_ne other _⟩

/-- What a visit leaves of a partition. -/
theorem Regular.leaves (regular : cache.Regular)
    (held : reply?.isSome = true → cache.contains id = true) :
    Leaves kinds id reply? cache (cache.visit kinds id reply?).2 := by
  cases reply? with
  | none => exact ⟨rfl, rfl, fun _ _ => rfl⟩
  | some reply =>
      have loaded : (cache.compiled kinds id reply).map Instance.loaded = kinds.loaded id reply :=
        loaded_compile ..
      simp only [visit]
      cases outcome : cache.compiled kinds id reply with
      | ok made =>
          obtain ⟨own, others⟩ := regular.get?_insert_compiled (held rfl) outcome
          obtain ⟨serial, rfl, stamp, _⟩ := Instance.of_compile outcome
          rw [outcome] at loaded
          refine ⟨?_, ?_, others⟩
          · rw [Option.map_some, ← loaded, ← serial, ← stamp]
            exact own
          · rw [Option.map_some, ← loaded]
            exact marks_insert ..
      | error e =>
          rw [outcome] at loaded
          cases e with
          | notFound key =>
              refine ⟨?_, ?_, fun key other => get?_remove_of_ne other _⟩
              · rw [Option.map_some, ← loaded]
                exact get?_remove_self ..
              · rw [Option.map_some, ← loaded]
                rfl
          | _ =>
              refine ⟨?_, ?_, fun _ _ => rfl⟩
              · rw [Option.map_some, ← loaded]
                rfl
              · rw [Option.map_some, ← loaded]
                rfl

/-- **A reload that nothing disturbs is a complete visit**, with the reply of the store that it
meets. -/
theorem Quiet.reload_eq_visit {P : String → Definition → Prop} (quiet : cache.Quiet kinds P)
    (asks : reply?.isSome = cache.contains id)
    (replies : ∀ reply ∈ reply?, (store.get id).1 = reply) :
    ((cache.reload kinds id store).1, (cache.reload kinds id store).2.2) =
      cache.visit kinds id reply? := by
  rw [quiet.reload_eq, ← asks]
  cases reply? with
  | none => rfl
  | some reply =>
      simp only [Option.isSome_some, if_true, replies reply rfl]
      rfl

/-! ## Visits under way -/

/-- How far the visit of a partition has come: what it is about to do, the partition as it is now,
whether the store has been asked, and what it has replied. -/
inductive Amid (kinds : Kinds) (id : String) (cache : PartitionCache) :
    Reload → PartitionCache → Bool → Option StoreReply → Prop
  | checking : Amid kinds id cache .checking cache false none
  | marking (missing : cache.contains id = false) : Amid kinds id cache .marking cache false none
  | starting (held : cache.contains id = true) :
    Amid kinds id cache (.loading cache.nextSerial .starting) cache.takeSerial.2 false none
  | asking (held : cache.contains id = true) :
    Amid kinds id cache (.loading cache.nextSerial (.asking cache.marks.clock)) cache.takeSerial.2
      false none
  | reading (held : cache.contains id = true) :
    Amid kinds id cache (.loading cache.nextSerial (.reading cache.marks.clock)) cache.takeSerial.2
      true none
  | replied (held : cache.contains id = true) (reply : StoreReply) :
    Amid kinds id cache (.loading cache.nextSerial (.replied cache.marks.clock reply))
      cache.takeSerial.2 true (some reply)
  | comparing (held : cache.contains id = true) {reply : StoreReply} {made : Instance}
      (compiles : cache.compiled kinds id reply = .ok made) :
    Amid kinds id cache (.comparing made) cache.takeSerial.2 true (some reply)
  | installing (held : cache.contains id = true) {reply : StoreReply} {made : Instance}
      (compiles : cache.compiled kinds id reply = .ok made) :
    Amid kinds id cache (.installing made) cache.takeSerial.2 true (some reply)
  | rechecking (held : cache.contains id = true) {reply : StoreReply} {made : Instance}
      (compiles : cache.compiled kinds id reply = .ok made) :
    Amid kinds id cache (.rechecking made) (cache.takeSerial.2.insert made) true (some reply)
  | forgetting (held : cache.contains id = true) :
    Amid kinds id cache .forgetting cache.takeSerial.2 true (some (.ok none))
  | removing (held : cache.contains id = true) :
    Amid kinds id cache .removing (cache.takeSerial.2.mark id) true (some (.ok none))
  | answered (reply? : Option StoreReply) (asks : reply?.isSome = cache.contains id) :
    Amid kinds id cache (.answered (cache.visit kinds id reply?).1) (cache.visit kinds id reply?).2
      reply?.isSome reply?

variable {phase : Reload} {asked : Bool}

/-- **A step of a visit**, whatever the store is like. -/
theorem Amid.step (amid : Amid kinds id cache phase now asked reply?) (regular : cache.Regular)
    (unanswered : ∀ outcome, phase ≠ .answered outcome) (store : Store) :
    Amid kinds id cache (phase.step kinds id store now).1 (phase.step kinds id store now).2.2
      (asked || phase.asks) (reply?.or (phase.step kinds id store now).1.reply?) := by
  have moves := Reload.transition_step kinds id phase store now
  generalize phase.step kinds id store now = result at moves ⊢
  -- Wherever the visit ends after a reply, it ends as a visit with that reply does.
  have ends (reply : StoreReply) (held : cache.contains id = true) :
      Amid kinds id cache (.answered (cache.visit kinds id (some reply)).1)
        (cache.visit kinds id (some reply)).2 true (some reply) := .answered _ held.symm
  cases amid with
  | checking =>
      cases moves with
      | begun held => exact .starting held
      | missed missing => exact .marking missing
  | marking missing =>
      cases moves
      exact .answered none missing.symm
  | starting held =>
      cases moves with
      | moved _ moves =>
          cases moves
          exact .asking held
  | asking held =>
      cases moves with
      | moved _ moves =>
          cases moves with
          | admitted => exact .reading held
          | refused => exact .replied held _
  | reading held =>
      cases moves with
      | moved _ moves =>
          cases moves
          exact .replied held _
  | replied held reply =>
      cases moves with
      | moved unreplied => cases unreplied
      | compiled success => exact .comparing held success
      | vanished gone =>
          cases Instance.eq_none_of_compile gone
          exact .forgetting held
      | @failed _ _ _ e failure other =>
          have ends := ends reply held
          rw [visit, show cache.compiled kinds id reply = .error e from failure] at ends
          cases e with
          | notFound key => exact absurd rfl (other key)
          | _ => exact ends
  | @comparing held reply made compiles =>
      -- Nobody marks the id during a visit, so neither comparison finds the instance outdated.
      have fresh : cache.takeSerial.2.isStale made = false :=
        isStale_of_stamp regular.marks (Instance.of_compile compiles).2.2.1
      cases moves with
      | outdated stale => cases stale.symm.trans fresh
      | passed => exact .installing held compiles
  | installing held compiles =>
      cases moves
      exact .rechecking held compiles
  | @rechecking held reply made compiles =>
      have fresh : (cache.takeSerial.2.insert made).isStale made = false := by
        rw [isStale_insert]
        exact isStale_of_stamp regular.marks (Instance.of_compile compiles).2.2.1
      have ends := ends reply held
      rw [visit, compiles] at ends
      cases moves with
      | confirmed => exact ends
      | overtaken stale => cases stale.symm.trans fresh
  | forgetting held =>
      cases moves
      exact .removing held
  | removing held =>
      cases moves
      exact .answered (some (.ok none)) held.symm
  | answered reply? asks => exact absurd rfl (unanswered _)

/-- A visit asks the store once. -/
theorem Amid.not_asked (amid : Amid kinds id cache phase now asked reply?)
    (asks : phase.asks = true) : asked = false := by
  cases amid <;> first | rfl | cases asks

/-- A visit receives one reply. -/
theorem Amid.no_reply (amid : Amid kinds id cache phase now asked reply?)
    (told : phase.told? id store = some reply) : reply? = none := by
  cases amid <;> first | rfl | cases told

/-- A visit that has been answered is complete. -/
theorem Amid.of_answered {outcome : Except LoadError Bool}
    (amid : Amid kinds id cache (.answered outcome) now asked reply?) :
    reply?.isSome = cache.contains id ∧ outcome = (cache.visit kinds id reply?).1 ∧
      now = (cache.visit kinds id reply?).2 ∧ asked = reply?.isSome := by
  cases amid with
  | answered reply? asks => exact ⟨asks, rfl, rfl, rfl⟩

/-- What a partition may hold amid the visit of a reload, or after it: under the id the old
instance, or one made of a reply that it was told, or nothing, if it was told that there is no
definition; and under all other ids what there was before. -/
structure Whole (kinds : Kinds) (id : String) (told : StoreReply → Prop)
    (old now : PartitionCache) : Prop where
  own : now.get? id = old.get? id ∨
    (∃ reply made, told reply ∧ old.compiled kinds id reply = .ok made ∧ now.get? id = some made) ∨
    now.get? id = none ∧ told (.ok none)
  others : ∀ key, key ≠ id → now.get? key = old.get? key

/-- **No visit leaves a partition half changed.** -/
theorem Amid.whole (amid : Amid kinds id cache phase now asked reply?) (regular : cache.Regular) :
    Whole kinds id (fun reply => reply? = some reply) cache now := by
  cases amid with
  | @rechecking held reply made compiles =>
      obtain ⟨own, others⟩ := regular.get?_insert_compiled held compiles
      exact ⟨.inr (.inl ⟨reply, made, rfl, compiles, own⟩), others⟩
  | answered reply? asks =>
      cases reply? with
      | none => exact ⟨.inl rfl, fun _ _ => rfl⟩
      | some reply =>
          have ends : (cache.visit kinds id (some reply)).2 =
              (Reload.finish id cache.takeSerial.2 (cache.compiled kinds id reply)).2 := rfl
          rw [ends]
          cases outcome : cache.compiled kinds id reply with
          | ok made =>
              obtain ⟨own, others⟩ := regular.get?_insert_compiled asks.symm outcome
              exact ⟨.inr (.inl ⟨reply, made, rfl, outcome, own⟩), others⟩
          | error e =>
              cases e with
              | notFound key =>
                  rw [Instance.eq_none_of_compile outcome]
                  exact ⟨.inr (.inr ⟨get?_remove_self .., rfl⟩),
                    fun key other => get?_remove_of_ne other _⟩
              | _ => exact ⟨.inl rfl, fun _ _ => rfl⟩
  | _ => exact ⟨.inl rfl, fun _ _ => rfl⟩

end PartitionCache

end QueryRewriting

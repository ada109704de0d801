import QueryRewriting.Proofs.Cache.PlainMap
import QueryRewriting.Proofs.Cache.Successive

/-! # What lookups would answer

The forecast for an id is what a lookup would answer now. A lookup on a quiet partition answers as
forecast and changes no forecast, neither that for its own id nor any other. So ids that are looked
up one after the other are answered as forecast before the first of them was looked up, until one is
not found. -/

namespace QueryRewriting

/-- An instance of which nothing counts but what is seen of it. -/
def Loaded.under (id : String) (entry : Loaded) : Instance where
  serial := 0
  id := id
  definition := entry.definition
  rewriter := entry.rewriter
  stamp := 0

/-- An instance without what tells it apart from others made of the same definition. -/
def Instance.plain (made : Instance) : Instance := made.loaded.under made.id

namespace PartitionCache

variable {kinds : Kinds} {store left : Store} {cache after : PartitionCache} {id : String}
  {P : String → Definition → Prop}

/-! ## Forecasts -/

/-- What a lookup would answer. -/
def forecast (kinds : Kinds) (store : Store) (cache : PartitionCache) (id : String) :
    Except LoadError Loaded :=
  (cache.lookup kinds id store).1.map Instance.loaded

/-- What a lookup fetches is what the store's reply is made into. -/
theorem loaded_fetch (kinds : Kinds) (id : String) (store : Store) (cache : PartitionCache) :
    (cache.fetch kinds id store).1.map Instance.loaded = kinds.loaded id (store.get id).1 := by
  rw [← loaded_compile kinds cache.nextSerial id cache.marks.clock]
  unfold fetch
  cases compiled : Instance.compile kinds cache.nextSerial id cache.marks.clock (store.get id).1 <;>
    simp only [compiled]

/-- An instance that is held and not stale is what the forecast says; else the store decides. -/
theorem Quiet.forecast_eq (quiet : cache.Quiet kinds P) :
    cache.forecast kinds store id =
      match (cache.get? id).filter fun made => !cache.isStale made with
      | some made => .ok made.loaded
      | none => kinds.loaded id (store.get id).1 := by
  rw [forecast, quiet.lookup_eq]
  cases held : cache.get? id with
  | none => exact loaded_fetch kinds id store cache
  | some made =>
      cases stale : cache.isStale made with
      | false => simp [Option.filter, stale, Except.map]
      | true => simpa [Option.filter, stale] using loaded_fetch kinds id store (cache.remove id)

/-- What a lookup answers is not stale. -/
theorem Quiet.isStale_lookup (quiet : cache.Quiet kinds P) {made : Instance}
    (found : (cache.lookup kinds id store).1 = .ok made) : cache.isStale made = false := by
  have fetched (rest : PartitionCache) (same : rest.marks = cache.marks)
      (found : (rest.fetch kinds id store).1 = .ok made) : cache.isStale made = false := by
    unfold PartitionCache.fetch at found
    cases compiled :
        Instance.compile kinds rest.nextSerial id rest.marks.clock (store.get id).1 with
    | error e =>
        simp only [compiled] at found
        cases found
    | ok other =>
        simp only [compiled] at found
        cases found
        exact isStale_of_stamp quiet.marks (same ▸ (Instance.of_compile compiled).2.2.1)
  rw [quiet.lookup_eq] at found
  cases held : cache.get? id with
  | none =>
      rw [held] at found
      exact fetched cache rfl found
  | some old =>
      rw [held] at found
      cases stale : cache.isStale old with
      | false =>
          simp only [stale] at found
          cases found
          exact stale
      | true =>
          simp only [stale, if_true] at found
          exact fetched (cache.remove id) rfl found

/-- An id that was left alone has the same forecast. -/
theorem Onward.forecast_eq (onward : Onward kinds store cache left after)
    (quiet : cache.Quiet kinds P) (alone : after.get? id = cache.get? id) :
    after.forecast kinds left id = cache.forecast kinds store id := by
  rw [onward.quiet.forecast_eq, quiet.forecast_eq, alone,
    Store.get_congr onward.documents onward.available]
  unfold isStale
  rw [onward.marks]

/-- The forecast for the id that was looked up has come true and stays. -/
theorem Quiet.forecast_lookup_self (quiet : cache.Quiet kinds fun _ _ => True)
    (room : cache.maxBytes ≠ some 0) (id : String) (store : Store) :
    (cache.lookup kinds id store).2.2.forecast kinds (cache.lookup kinds id store).2.1 id =
      cache.forecast kinds store id := by
  have onward := quiet.onward room id store
  have finds := quiet.lookup_finds room id store
  rw [onward.quiet.forecast_eq, finds.own, Store.get_congr onward.documents onward.available]
  cases answers : (cache.lookup kinds id store).1 with
  | ok made =>
      have fresh := quiet.isStale_lookup answers
      have still : (cache.lookup kinds id store).2.2.isStale made = false := by
        unfold isStale at fresh ⊢
        rwa [finds.marks]
      simp [forecast, answers, Except.toOption, Except.map, Option.filter, still]
  | error e =>
      have fails : cache.forecast kinds store id = .error e := by
        rw [forecast, answers]
        rfl
      rw [fails]
      rw [quiet.forecast_eq] at fails
      split at fails
      · cases fails
      · exact fails

/-- **A lookup changes no forecast.** -/
theorem Quiet.forecast_lookup (quiet : cache.Quiet kinds fun _ _ => True)
    (room : cache.maxBytes ≠ some 0) (id key : String) (store : Store) :
    (cache.lookup kinds id store).2.2.forecast kinds (cache.lookup kinds id store).2.1 key =
      cache.forecast kinds store key := by
  by_cases same : key = id
  · rw [same]
    exact quiet.forecast_lookup_self room id store
  · have alone := (quiet.lookup_finds room id store).others key same
    exact (quiet.onward room id store).forecast_eq quiet alone

/-! ## Ids in turn -/

/-- The ids that are looked up when some are asked for in turn: all up to the first that is not
found. -/
def reached (forecast : String → Except LoadError Loaded) : List String → List String
  | [] => []
  | id :: rest =>
    match forecast id with
    | .ok _ => id :: reached forecast rest
    | .error _ => [id]

/-- What is foreseen for ids that are looked up in turn. -/
def forecastAll (forecast : String → Except LoadError Loaded) (ids : List String) :
    Except LoadError (List Instance) :=
  ids.mapM fun id => (forecast id).map (Loaded.under id)

/-- Some ids were looked up in turn, as foreseen: the partition goes on as it was and with the same
forecasts, and for the ids that were reached it holds what was foreseen. -/
structure Fulfils (kinds : Kinds) (store : Store) (before : PartitionCache) (ids : List String)
    (outcome : Except LoadError (List Instance)) (left : Store) (after : PartitionCache) :
    Prop where
  onward : Onward kinds store before left after
  forecasts : ∀ key, after.forecast kinds left key = before.forecast kinds store key
  outcome : outcome.map (List.map Instance.plain) = forecastAll (before.forecast kinds store) ids
  held : ∀ key, (after.get? key).map Instance.loaded =
    if key ∈ reached (before.forecast kinds store) ids then
      (before.forecast kinds store key).toOption
    else (before.get? key).map Instance.loaded

/-- The first id for which nothing is to be had decides; what the others are is not asked. -/
theorem forecastAll_cons (forecast : String → Except LoadError Loaded) (id : String)
    (rest : List String) :
    forecastAll forecast (id :: rest) =
      match forecast id with
      | .ok entry => (forecastAll forecast rest).map (entry.under id :: ·)
      | .error e => .error e := by
  unfold forecastAll
  rw [List.mapM_cons]
  cases forecast id with
  | error e => rfl
  | ok entry => cases rest.mapM fun id => (forecast id).map (Loaded.under id) <;> rfl

/-- **Ids that are looked up in turn are answered as foreseen.** -/
theorem Quiet.lookupAll_fulfils (quiet : cache.Quiet kinds fun _ _ => True)
    (room : cache.maxBytes ≠ some 0) (store : Store) (ids : List String) :
    Fulfils kinds store cache ids (cache.lookupAll kinds store ids).1
      (cache.lookupAll kinds store ids).2.1 (cache.lookupAll kinds store ids).2.2 := by
  induction ids generalizing cache store with
  | nil =>
      exact ⟨.refl quiet, fun _ => rfl, rfl, fun _ => rfl⟩
  | cons id rest ih =>
      have first := quiet.onward room id store
      have finds := quiet.lookup_finds room id store
      have kept := fun key => quiet.forecast_lookup room id key store
      have named := (quiet.lookup (fun key d (_ : store.Holds key d) => trivial) id).2.2
      have own : cache.forecast kinds store id =
        (cache.lookup kinds id store).1.map Instance.loaded := rfl
      rw [lookupAll_cons]
      generalize cache.lookup kinds id store = result at first finds kept named own ⊢
      obtain ⟨outcome, middle, between⟩ := result
      -- what the first lookup leaves for an id
      have holds (key : String) : (between.get? key).map Instance.loaded =
          if key = id then (cache.forecast kinds store key).toOption
          else (cache.get? key).map Instance.loaded := by
        by_cases same : key = id
        · subst same
          rw [if_pos rfl, own, finds.own]
          cases outcome <;> rfl
        · rw [if_neg same, finds.others key same]
      cases outcome with
      | error e =>
          have fails : cache.forecast kinds store id = .error e := own
          refine ⟨first, kept, ?_, fun key => ?_⟩
          · rw [forecastAll_cons, fails]
            rfl
          · simp only [reached, fails, List.mem_singleton]
            exact holds key
      | ok made =>
          have found : cache.forecast kinds store id = .ok made.loaded := own
          have plain : made.plain = made.loaded.under id := by
            rw [Instance.plain, (named made rfl).1]
          obtain ⟨onward, forecasts, outcome, held⟩ :=
            ih first.quiet (finds.maxBytes ▸ room) middle
          have same : between.forecast kinds middle = cache.forecast kinds store := funext kept
          rw [same] at forecasts outcome held
          simp only
          refine ⟨first.trans onward, forecasts, ?_, fun key => ?_⟩
          · rw [forecastAll_cons, found]
            simp only
            rw [← outcome, ← plain]
            cases (between.lookupAll kinds middle rest).1 <;> rfl
          · rw [held key, holds key]
            simp only [reached, found, List.mem_cons]
            grind

end PartitionCache

end QueryRewriting

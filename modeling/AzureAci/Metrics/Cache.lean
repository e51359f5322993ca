import AzureAci.Go

/-!
# The pod stats cache

`WrapCachedPodStatsGetter` puts a `go-cache` cache in front of a pod stats getter. A call looks
the pod's UID up; on a miss it calls the wrapped getter and stores a successful answer with the
default expiration, `ttlSeconds` seconds, and an error is returned without being stored. The
cache's `Set`, `Get` and `DeleteExpired` (which its janitor runs) are modelled as the library
writes them, over clock readings in Unix nanoseconds: `Set` stores the expiration `now + d` only
when `d > 0`, and `Get` treats an expiration of `0` or less as "never", so stats stored at a clock
before the epoch never expire. `time.Duration(ttlSeconds)*time.Second` is an `int64` product,
which wraps above `2^63` nanoseconds.

A run is a sequence of calls and janitor passes, one after the other, each with the clock
readings it takes and the wrapped getter's answer. With readings that never go back and lie in
`[0, 2^63 - d)`, stats are served from the cache only within `d` of the `Set` that stored them,
and the wrapped getter is not called for a UID fetched less than `d` before.
-/

namespace AzureAci

/-- `cache.Item`. -/
structure CacheItem (α : Type) where
  /-- `Object`. -/
  object : α
  /-- `Expiration`, in Unix nanoseconds; `0` or less never expires. -/
  expiration : Int
  deriving DecidableEq, Repr

/-- `Expiration > 0 && now > Expiration`: whether the item has expired at `now`. -/
def CacheItem.expired {α : Type} (item : CacheItem α) (now : Int) : Bool :=
  0 < item.expiration && item.expiration < now

/-- `cache.Cache`, with the fields `Set`, `Get` and `DeleteExpired` read. -/
structure GoCache (α : Type) where
  /-- `defaultExpiration`, in nanoseconds. -/
  defaultExpiration : Int
  /-- `items`, a map from keys to items. -/
  items : List (String × CacheItem α)
  deriving DecidableEq, Repr

/-- `cache.DefaultExpiration`. -/
def cacheDefaultExpiration : Int := 0

/-- `cache.NoExpiration`. -/
def cacheNoExpiration : Int := -1

namespace GoCache

variable {α : Type}

/-- `cache.New(defaultExpiration, cleanupInterval)`; the janitor it starts is the `janitor`
event of a run. -/
def new (defaultExpiration : Int) : GoCache α :=
  { defaultExpiration := if defaultExpiration = 0 then cacheNoExpiration else defaultExpiration
    items := [] }

/-- `c.Set(k, x, d)`, with the clock at `now`. -/
def set (c : GoCache α) (now : Int) (k : String) (x : α) (d : Int) : GoCache α :=
  let d := if d = cacheDefaultExpiration then c.defaultExpiration else d
  let e := if 0 < d then toInt64 (now + d) else 0
  { c with items := mapInsert c.items k { object := x, expiration := e } }

/-- `c.Get(k)`, with the clock at `now`. -/
def get (c : GoCache α) (now : Int) (k : String) : Option α :=
  match c.items.lookup k with
  | none => none
  | some item => if item.expired now then none else some item.object

/-- `c.DeleteExpired()`, with the clock at `now`. -/
def deleteExpired (c : GoCache α) (now : Int) : GoCache α :=
  { c with items := c.items.filter fun entry => !entry.2.expired now }

end GoCache

/-- `WrapCachedPodStatsGetter(ttlSeconds, getter)`: the cache in front of the getter. -/
def wrapCachedPodStatsGetter {α : Type} (ttlSeconds : Int) : GoCache α :=
  GoCache.new (toInt64 (ttlSeconds * 1000000000))

/-- What one `getPodStats` call did. -/
structure StatsOutcome (α : Type) where
  /-- The stats returned, or the error. -/
  result : Except GoError α
  /-- The cache after the call. -/
  cache : GoCache α
  /-- Whether the call called the wrapped getter. -/
  calledGetter : Bool
  deriving DecidableEq, Repr

namespace GoCache

variable {α : Type}

/-- `cachePodStatsGetter.getPodStats` for a pod with UID `uid`: `Get` reads the clock at `now`;
on a miss the wrapped getter answers `fetched`, and `Set` reads the clock at `later`. -/
def getPodStats (c : GoCache α) (uid : String) (now : Int) (fetched : Except GoError α)
    (later : Int) : StatsOutcome α :=
  match c.get now uid with
  | some cachedPodStats => ⟨.ok cachedPodStats, c, false⟩
  | none =>
      match fetched with
      | .error err => ⟨.error err, c, true⟩
      | .ok stats => ⟨.ok stats, c.set later uid stats cacheDefaultExpiration, true⟩

end GoCache

/-- What happens to a `cachePodStatsGetter`, with the clock readings it takes. -/
inductive StatsEvent (α : Type) where
  /-- `getPodStats` for a pod with UID `uid`: `Get` at `now`, then, on a miss, the wrapped
  getter's answer `fetched` and `Set` at `later`. -/
  | getPodStats (uid : String) (now : Int) (fetched : Except GoError α) (later : Int)
  /-- The janitor's `DeleteExpired` at `now`. -/
  | janitor (now : Int)
  deriving DecidableEq, Repr

/-- The clock readings of an event, in the order it takes them. -/
def StatsEvent.readings {α : Type} : StatsEvent α → List Int
  | .getPodStats _ now _ later => [now, later]
  | .janitor now => [now]

/-- The clock readings of a run, in order. -/
def clockReadings {α : Type} (events : List (StatsEvent α)) : List Int :=
  events.flatMap StatsEvent.readings

@[simp] theorem clockReadings_nil {α : Type} : clockReadings ([] : List (StatsEvent α)) = [] := rfl

@[simp] theorem clockReadings_cons {α : Type} (event : StatsEvent α)
    (events : List (StatsEvent α)) :
    clockReadings (event :: events) = event.readings ++ clockReadings events := rfl

@[simp] theorem clockReadings_append {α : Type} (pre post : List (StatsEvent α)) :
    clockReadings (pre ++ post) = clockReadings pre ++ clockReadings post := by
  simp [clockReadings]

namespace GoCache

variable {α : Type}

/-- The cache after an event. -/
def apply (c : GoCache α) : StatsEvent α → GoCache α
  | .getPodStats uid now fetched later => (c.getPodStats uid now fetched later).cache
  | .janitor now => c.deleteExpired now

/-- The stats an event fetched through the wrapped getter and returned, with the pod's UID and
the clock of the `Set` that stored them. -/
def fetchOf (c : GoCache α) : StatsEvent α → Option (String × α × Int)
  | .getPodStats uid now fetched later =>
      match c.getPodStats uid now fetched later with
      | ⟨.ok stats, _, true⟩ => some (uid, stats, later)
      | _ => none
  | .janitor _ => none

/-- The cache after the events, each on the cache the one before it left. -/
def runEvents (c : GoCache α) (events : List (StatsEvent α)) : GoCache α :=
  events.foldl apply c

/-- The stats the calls of a run fetched, in order. -/
def fetches : GoCache α → List (StatsEvent α) → List (String × α × Int)
  | _, [] => []
  | c, event :: events => (c.fetchOf event).toList ++ (c.apply event).fetches events

end GoCache

section Lookup

variable {β : Type}

theorem mem_of_lookup_eq_some {entries : List (String × β)} {k : String} {b : β}
    (found : entries.lookup k = some b) : (k, b) ∈ entries := by
  induction entries with
  | nil => cases found
  | cons entry entries induction =>
      obtain ⟨key, value⟩ := entry
      by_cases named : k = key
      · subst named
        simp only [List.lookup_cons, beq_self_eq_true, Option.some.injEq] at found
        simp [found]
      · simp only [List.lookup_cons, beq_eq_false_iff_ne.mpr named] at found
        exact List.mem_cons_of_mem _ (induction found)

theorem lookup_filter_of_keep {entries : List (String × β)} {k : String} {b : β}
    {keep : β → Bool} (found : entries.lookup k = some b) (kept : keep b = true) :
    (entries.filter fun entry => keep entry.2).lookup k = some b := by
  induction entries with
  | nil => cases found
  | cons entry entries induction =>
      obtain ⟨key, value⟩ := entry
      by_cases named : k = key
      · subst named
        simp only [List.lookup_cons, beq_self_eq_true, Option.some.injEq] at found
        subst found
        simp [List.filter_cons, kept]
      · simp only [List.lookup_cons, beq_eq_false_iff_ne.mpr named] at found
        rw [List.filter_cons]
        split
        · rw [List.lookup_cons, beq_eq_false_iff_ne.mpr named]
          exact induction found
        · exact induction found

theorem mem_mapInsert {entries : List (String × β)} {k name : String} {b value : β} :
    (name, value) ∈ mapInsert entries k b ↔ (name = k ∧ value = b) ∨
      ((name, value) ∈ entries ∧ name ≠ k) := by
  simp [mapInsert, List.mem_filter]

theorem lookup_eq_none_of_not_mem {entries : List (String × β)} {k : String}
    (absent : k ∉ entries.map Prod.fst) : entries.lookup k = none := by
  cases found : entries.lookup k with
  | none => rfl
  | some b => exact absurd (List.mem_map_of_mem Prod.fst (mem_of_lookup_eq_some found)) absent

theorem lookup_filter_of_nodup {entries : List (String × β)} {keep : β → Bool} {k : String}
    (nodup : (entries.map Prod.fst).Nodup) :
    (entries.filter fun entry => keep entry.2).lookup k = (entries.lookup k).filter keep := by
  induction entries with
  | nil => rfl
  | cons entry entries induction =>
      obtain ⟨key, value⟩ := entry
      simp only [List.map_cons, List.nodup_cons] at nodup
      rw [List.filter_cons]
      by_cases named : k = key
      · subst named
        have absent : (entries.filter fun entry => keep entry.2).lookup k = none := by
          rw [induction nodup.2, lookup_eq_none_of_not_mem nodup.1]
          rfl
        cases kept : keep value <;> simp [List.lookup_cons, kept, absent, Option.filter]
      · split <;> simp [List.lookup_cons, beq_eq_false_iff_ne.mpr named, induction nodup.2]

theorem nodup_keys_mapInsert {entries : List (String × β)} {k : String} {b : β}
    (nodup : (entries.map Prod.fst).Nodup) : ((mapInsert entries k b).map Prod.fst).Nodup := by
  simp only [mapInsert, List.map_cons, List.nodup_cons]
  refine ⟨fun member => ?_, nodup.sublist (List.Sublist.map _ (List.filter_sublist _))⟩
  obtain ⟨⟨key, value⟩, kept, rfl⟩ := List.mem_map.mp member
  simp at kept

end Lookup

namespace GoCache

variable {α : Type}

theorem get_eq_some {c : GoCache α} {now : Int} {k : String} {stats : α} :
    c.get now k = some stats ↔
      ∃ item, c.items.lookup k = some item ∧ item.expired now = false ∧ item.object = stats := by
  unfold get
  cases c.items.lookup k with
  | none => simp
  | some item => cases expired : item.expired now <;> simp [expired]

/-- What a call can do: serve cached stats, or call the wrapped getter and return its error, or
return and store its stats. -/
theorem getPodStats_cases (c : GoCache α) (uid : String) (now : Int) (fetched : Except GoError α)
    (later : Int) :
    (∃ stats, c.get now uid = some stats ∧
        c.getPodStats uid now fetched later = ⟨.ok stats, c, false⟩) ∨
      (c.get now uid = none ∧ ∃ err, fetched = .error err ∧
        c.getPodStats uid now fetched later = ⟨.error err, c, true⟩) ∨
      (c.get now uid = none ∧ ∃ stats, fetched = .ok stats ∧
        c.getPodStats uid now fetched later =
          ⟨.ok stats, c.set later uid stats cacheDefaultExpiration, true⟩) := by
  unfold getPodStats
  cases c.get now uid with
  | some stats => exact .inl ⟨stats, rfl, rfl⟩
  | none =>
      cases fetched with
      | error err => exact .inr (.inl ⟨rfl, err, rfl, rfl⟩)
      | ok stats => exact .inr (.inr ⟨rfl, stats, rfl, rfl⟩)

theorem set_items {c : GoCache α} {now : Int} {k : String} {x : α}
    (positive : 0 < c.defaultExpiration) (nonneg : 0 ≤ now)
    (fits : now + c.defaultExpiration < 9223372036854775808) :
    (c.set now k x cacheDefaultExpiration).items =
      mapInsert c.items k { object := x, expiration := now + c.defaultExpiration } := by
  simp [set, cacheDefaultExpiration, positive, toInt64_of_lt (by omega) fits]

@[simp] theorem defaultExpiration_apply (c : GoCache α) (event : StatsEvent α) :
    (c.apply event).defaultExpiration = c.defaultExpiration := by
  cases event with
  | getPodStats uid now fetched later =>
      rcases getPodStats_cases c uid now fetched later with
        ⟨_, -, called⟩ | ⟨-, _, -, called⟩ | ⟨-, _, -, called⟩ <;> simp [apply, called, set]
  | janitor now => rfl

theorem runEvents_append_singleton (c : GoCache α) (pre : List (StatsEvent α))
    (event : StatsEvent α) : c.runEvents (pre ++ [event]) = (c.runEvents pre).apply event := by
  simp [runEvents]

@[simp] theorem defaultExpiration_runEvents (c : GoCache α) (events : List (StatsEvent α)) :
    (c.runEvents events).defaultExpiration = c.defaultExpiration := by
  induction events using List.reverseRecOn with
  | nil => rfl
  | append_singleton pre event induction =>
      rw [runEvents_append_singleton, defaultExpiration_apply, induction]

theorem fetches_append_singleton (c : GoCache α) (pre : List (StatsEvent α))
    (event : StatsEvent α) :
    c.fetches (pre ++ [event]) = c.fetches pre ++ ((c.runEvents pre).fetchOf event).toList := by
  induction pre generalizing c with
  | nil => simp [fetches, runEvents]
  | cons first pre induction => simp [fetches, runEvents, induction]

theorem mem_readings_of_fetch {c : GoCache α} {events : List (StatsEvent α)} {k : String}
    {stats : α} {later : Int} (fetched : (k, stats, later) ∈ c.fetches events) :
    later ∈ clockReadings events := by
  induction events generalizing c with
  | nil => cases fetched
  | cons event events induction =>
      simp only [fetches, List.mem_append, Option.mem_toList] at fetched
      rcases fetched with first | rest
      · cases event with
        | janitor now => cases first
        | getPodStats uid now answer setClock =>
            simp only [fetchOf] at first
            split at first <;> cases first
            simp [StatsEvent.readings]
      · simp [induction rest]

end GoCache

/-! ## Runs -/

section Fresh

variable {α : Type} (d : Int) (start : GoCache α)

/-- What a run from `start` leaves in the cache, for the default expiration `d`: each item holds
stats fetched for its key and expires `d` after the `Set` that stored them, and stats fetched for
a key are still stored, under an expiration no sooner, unless the clock has passed theirs since. -/
structure Fresh (pre : List (StatsEvent α)) : Prop where
  /-- Each item comes from a fetch of its key. -/
  stored : ∀ k item, (k, item) ∈ (start.runEvents pre).items →
    ∃ later, (k, item.object, later) ∈ start.fetches pre ∧ item.expiration = later + d
  /-- Each fetch is still stored, or has expired. -/
  kept : ∀ k stats later, (k, stats, later) ∈ start.fetches pre →
    (∃ item, (start.runEvents pre).items.lookup k = some item ∧ later + d ≤ item.expiration) ∨
      ∃ t ∈ clockReadings pre, later + d < t

variable {d start}

theorem fresh_nil (empty : start.items = []) : Fresh d start [] :=
  ⟨by simp [GoCache.runEvents, empty], by simp [GoCache.fetches]⟩

/-- A janitor pass keeps the invariant: it removes only items whose clock has passed. -/
theorem fresh_janitor {pre : List (StatsEvent α)} {now : Int} (fresh : Fresh d start pre) :
    Fresh d start (pre ++ [.janitor now]) := by
  have fetched : start.fetches (pre ++ [.janitor now]) = start.fetches pre := by
    simp [GoCache.fetches_append_singleton, GoCache.fetchOf]
  constructor
  · intro k item member
    simp only [GoCache.runEvents_append_singleton, GoCache.apply, GoCache.deleteExpired,
      List.mem_filter] at member
    rw [fetched]
    exact fresh.stored k item member.1
  · intro k stats later member
    rw [fetched] at member
    rcases fresh.kept k stats later member with ⟨item, found, later⟩ | ⟨t, read, passed⟩
    · cases expired : item.expired now
      · refine .inl ⟨item, ?_, later⟩
        simp only [GoCache.runEvents_append_singleton, GoCache.apply, GoCache.deleteExpired]
        exact @lookup_filter_of_keep _ _ _ _ (fun item => !item.expired now) found
          (by simp [expired])
      · refine .inr ⟨now, by simp [StatsEvent.readings], ?_⟩
        simp only [CacheItem.expired, Bool.and_eq_true, decide_eq_true_eq] at expired
        omega
    · exact .inr ⟨t, by simp [read], passed⟩

theorem Fresh.of_unchanged {pre : List (StatsEvent α)} {event : StatsEvent α}
    (fresh : Fresh d start pre) (same : (start.runEvents pre).apply event = start.runEvents pre)
    (nothing : (start.runEvents pre).fetchOf event = none) : Fresh d start (pre ++ [event]) := by
  have fetched : start.fetches (pre ++ [event]) = start.fetches pre := by
    simp [GoCache.fetches_append_singleton, nothing]
  have cache : start.runEvents (pre ++ [event]) = start.runEvents pre := by
    rw [GoCache.runEvents_append_singleton, same]
  refine ⟨fun k item member => ?_, fun k stats later member => ?_⟩
  · rw [cache] at member
    exact fetched ▸ fresh.stored k item member
  · rw [cache]
    rcases fresh.kept k stats later (fetched ▸ member) with stored | ⟨t, read, passed⟩
    · exact .inl stored
    · exact .inr ⟨t, by simp [read], passed⟩

/-- A call keeps the invariant: a hit or an error leaves the cache as it was, and the stats it
fetches are stored to expire at `later + d`, no sooner than stats fetched before. -/
theorem fresh_getPodStats {pre : List (StatsEvent α)} {uid : String} {now later : Int}
    {fetched : Except GoError α} (fresh : Fresh d start pre)
    (expiration : start.defaultExpiration = d) (positive : 0 < d)
    (earlier : ∀ t ∈ clockReadings pre, t ≤ later) (nonneg : 0 ≤ later)
    (fits : later + d < 9223372036854775808) :
    Fresh d start (pre ++ [.getPodStats uid now fetched later]) := by
  rcases GoCache.getPodStats_cases (start.runEvents pre) uid now fetched later with
    ⟨stats, -, called⟩ | ⟨-, err, -, called⟩ | ⟨-, stats, rfl, called⟩
  · exact fresh.of_unchanged (by simp [GoCache.apply, called]) (by simp [GoCache.fetchOf, called])
  · exact fresh.of_unchanged (by simp [GoCache.apply, called]) (by simp [GoCache.fetchOf, called])
  · have default : (start.runEvents pre).defaultExpiration = d := by simp [expiration]
    have items : (start.runEvents (pre ++ [.getPodStats uid now (.ok stats) later])).items =
        mapInsert (start.runEvents pre).items uid { object := stats, expiration := later + d } := by
      rw [GoCache.runEvents_append_singleton, GoCache.apply, called, ← default]
      exact GoCache.set_items (default ▸ positive) nonneg (default ▸ fits)
    have fetches : start.fetches (pre ++ [.getPodStats uid now (.ok stats) later]) =
        start.fetches pre ++ [(uid, stats, later)] := by
      simp [GoCache.fetches_append_singleton, GoCache.fetchOf, called]
    constructor
    · intro k item member
      rw [items] at member
      rw [fetches]
      rcases mem_mapInsert.mp member with ⟨rfl, rfl⟩ | ⟨old, -⟩
      · exact ⟨later, by simp, rfl⟩
      · obtain ⟨stored, fetch, expires⟩ := fresh.stored k item old
        exact ⟨stored, by simp [fetch], expires⟩
    · intro k value stored member
      rw [items]
      rw [fetches, List.mem_append, List.mem_singleton] at member
      by_cases same : k = uid
      · subst same
        have before : stored ≤ later := by
          rcases member with old | new
          · exact earlier stored (GoCache.mem_readings_of_fetch old)
          · simp only [Prod.mk.injEq] at new
            omega
        exact .inl ⟨{ object := stats, expiration := later + d }, by simp, by simp; omega⟩
      · rcases member with old | new
        · rcases fresh.kept k value stored old with ⟨item, found, expires⟩ | ⟨t, read, passed⟩
          · exact .inl ⟨item, by simp [same, found], expires⟩
          · exact .inr ⟨t, by simp [read], passed⟩
        · cases new; exact absurd rfl same

/-- Over a run whose clock readings never go back, lie at or after the epoch and leave room for
`d` below `2^63`, the invariant holds from a cache made empty with the default expiration `d`. -/
theorem fresh_runEvents (empty : start.items = []) (expiration : start.defaultExpiration = d)
    (positive : 0 < d) {events : List (StatsEvent α)}
    (monotone : (clockReadings events).Pairwise (· ≤ ·))
    (within : ∀ t ∈ clockReadings events, 0 ≤ t ∧ t + d < 9223372036854775808) :
    Fresh d start events := by
  induction events using List.reverseRecOn with
  | nil => exact fresh_nil empty
  | append_singleton pre event induction =>
      rw [clockReadings_append] at monotone within
      obtain ⟨monotonePre, -, ordered⟩ := List.pairwise_append.mp monotone
      have fresh := induction monotonePre fun t read => within t (List.mem_append_left _ read)
      cases event with
      | janitor now => exact fresh_janitor fresh
      | getPodStats uid now fetched later =>
          have last : later ∈ clockReadings [StatsEvent.getPodStats uid now fetched later] := by
            simp [StatsEvent.readings]
          exact fresh_getPodStats fresh expiration positive
            (fun t read => ordered t read later last)
            (within later (List.mem_append_right _ last)).1
            (within later (List.mem_append_right _ last)).2

/-- Stats the cache serves at `now` were fetched for their key at most `d` before. -/
theorem Fresh.fetch_of_get {pre : List (StatsEvent α)} {now : Int} {k : String} {stats : α}
    (fresh : Fresh d start pre) (positive : 0 < d) (nonneg : ∀ t ∈ clockReadings pre, 0 ≤ t)
    (served : (start.runEvents pre).get now k = some stats) :
    ∃ stored, (k, stats, stored) ∈ start.fetches pre ∧ now ≤ stored + d := by
  obtain ⟨item, found, unexpired, rfl⟩ := GoCache.get_eq_some.mp served
  obtain ⟨stored, fetch, expires⟩ := fresh.stored k item (mem_of_lookup_eq_some found)
  have after : 0 ≤ stored := nonneg stored (GoCache.mem_readings_of_fetch fetch)
  refine ⟨stored, fetch, ?_⟩
  simp only [CacheItem.expired, Bool.and_eq_false_iff, decide_eq_false_iff_not] at unexpired
  omega

/-- A key fetched at most `d` before `now` is served at `now`, when no reading so far is past
`now`. -/
theorem Fresh.get_of_fetch {pre : List (StatsEvent α)} {now stored : Int} {k : String}
    {stats : α} (fresh : Fresh d start pre) (before : ∀ t ∈ clockReadings pre, t ≤ now)
    (fetch : (k, stats, stored) ∈ start.fetches pre) (recent : now ≤ stored + d) :
    (start.runEvents pre).get now k ≠ none := by
  rcases fresh.kept k stats stored fetch with ⟨item, found, expires⟩ | ⟨t, read, passed⟩
  · have unexpired : item.expired now = false := by
      simp only [CacheItem.expired, Bool.and_eq_false_iff, decide_eq_false_iff_not]
      omega
    simp [GoCache.get, found, unexpired]
  · exact absurd (before t read) (by omega)

end Fresh

/-- The default expiration `WrapCachedPodStatsGetter` gives the cache: `ttlSeconds` seconds, when
they fit in an `int64` count of nanoseconds. -/
theorem defaultExpiration_wrapCachedPodStatsGetter {α : Type} {ttlSeconds : Int}
    (positive : 0 < ttlSeconds) (fits : ttlSeconds * 1000000000 < 9223372036854775808) :
    (wrapCachedPodStatsGetter ttlSeconds : GoCache α).defaultExpiration =
      ttlSeconds * 1000000000 := by
  have nonzero : ttlSeconds * 1000000000 ≠ 0 := by omega
  simp [wrapCachedPodStatsGetter, GoCache.new, toInt64_of_lt (by omega) fits, nonzero]

/-- Over a run of a cache that `WrapCachedPodStatsGetter` made with a positive TTL that fits in an
`int64` count of nanoseconds, and clock readings that never go back, lie at or after the epoch and
leave room for the TTL below `2^63`: stats a call returns are those its own call of the wrapped
getter returned, or those an earlier call for the same UID fetched and returned at most the TTL
before; a call for a UID fetched at most the TTL before does not call the wrapped getter; and an
error of the wrapped getter is returned as it is, with the cache left as it was. -/
theorem getPodStats_serves_fresh_stats {α : Type} (ttlSeconds : Int) (positive : 0 < ttlSeconds)
    (fits : ttlSeconds * 1000000000 < 9223372036854775808) (events pre post : List (StatsEvent α))
    (uid : String) (now later : Int) (fetched : Except GoError α)
    (split : events = pre ++ .getPodStats uid now fetched later :: post)
    (monotone : (clockReadings events).Pairwise (· ≤ ·))
    (within : ∀ t ∈ clockReadings events,
      0 ≤ t ∧ t + ttlSeconds * 1000000000 < 9223372036854775808) :
    let cache := (wrapCachedPodStatsGetter ttlSeconds).runEvents pre
    let call := cache.getPodStats uid now fetched later
    (∀ stats, call.result = .ok stats →
      (call.calledGetter = true ∧ fetched = .ok stats) ∨
        ∃ stored, (uid, stats, stored) ∈ (wrapCachedPodStatsGetter ttlSeconds).fetches pre ∧
          stored ≤ now ∧ now ≤ stored + ttlSeconds * 1000000000) ∧
    (∀ stats stored, (uid, stats, stored) ∈ (wrapCachedPodStatsGetter ttlSeconds).fetches pre →
      now ≤ stored + ttlSeconds * 1000000000 → call.calledGetter = false) ∧
    ∀ err, call.result = .error err →
      call.calledGetter = true ∧ fetched = .error err ∧ call.cache = cache := by
  intro cache call
  have duration : 0 < ttlSeconds * 1000000000 := by omega
  subst split
  rw [clockReadings_append, clockReadings_cons] at monotone within
  obtain ⟨monotonePre, -, ordered⟩ := List.pairwise_append.mp monotone
  have before : ∀ t ∈ clockReadings pre, t ≤ now :=
    fun t read => ordered t read now (by simp [StatsEvent.readings])
  have fresh := fresh_runEvents rfl (defaultExpiration_wrapCachedPodStatsGetter positive fits)
    duration monotonePre fun t read => within t (List.mem_append_left _ read)
  have unfetched : ∀ stats stored, (uid, stats, stored) ∈
      (wrapCachedPodStatsGetter ttlSeconds).fetches pre →
      now ≤ stored + ttlSeconds * 1000000000 → cache.get now uid ≠ none :=
    fun _ _ fetch recent => fresh.get_of_fetch before fetch recent
  rcases GoCache.getPodStats_cases cache uid now fetched later with
    ⟨stats, served, called⟩ | ⟨missed, err, rfl, called⟩ | ⟨missed, stats, rfl, called⟩
  · refine ⟨fun returned result => .inr ?_, fun _ _ _ _ => by simp [call, called],
      fun err result => by simp [call, called] at result⟩
    simp only [call, called, Except.ok.injEq] at result
    subst result
    obtain ⟨stored, fetch, recent⟩ :=
      fresh.fetch_of_get duration (fun t read => (within t (List.mem_append_left _ read)).1) served
    exact ⟨stored, fetch, before stored (GoCache.mem_readings_of_fetch fetch), recent⟩
  · refine ⟨fun _ result => by simp [call, called] at result,
      fun stats stored fetch recent => absurd missed (unfetched stats stored fetch recent),
      fun _ result => ?_⟩
    simp only [call, called, Except.error.injEq] at result
    exact ⟨by simp [call, called], congrArg _ result, by simp [call, called]⟩
  · refine ⟨fun _ result => .inl ?_,
      fun stats stored fetch recent => absurd missed (unfetched stats stored fetch recent),
      fun _ result => by simp [call, called] at result⟩
    simp only [call, called, Except.ok.injEq] at result
    exact ⟨by simp [call, called], congrArg _ result⟩

/-- With a TTL of one second, stats fetched at `0` are served half a second later without a call
of the wrapped getter. -/
theorem halfSecondLater_served :
    (0 : Int) < 1 ∧ (1 : Int) * 1000000000 < 9223372036854775808 ∧
      (clockReadings ([.getPodStats "u" 0 (.ok 1) 0,
        .getPodStats "u" 500000000 (.ok 2) 500000000] : List (StatsEvent Nat))).Pairwise (· ≤ ·) ∧
      (∀ t ∈ clockReadings ([.getPodStats "u" 0 (.ok 1) 0,
          .getPodStats "u" 500000000 (.ok 2) 500000000] : List (StatsEvent Nat)),
        0 ≤ t ∧ t + 1 * 1000000000 < 9223372036854775808) ∧
      (((wrapCachedPodStatsGetter 1).runEvents [.getPodStats "u" 0 (.ok 1) 0]).getPodStats "u"
        500000000 (.ok 2) 500000000).calledGetter = false :=
  ⟨by decide, by decide, by decide, by decide,
    (getPodStats_serves_fresh_stats 1 (by decide) (by decide) _ [.getPodStats "u" 0 (.ok 1) 0] []
      "u" 500000000 500000000 (.ok 2) rfl (by decide) (by decide)).2.1 1 0 (by decide) (by decide)⟩

/-! ## The janitor -/

section Janitor

variable {α : Type}

theorem keys_nodup_runEvents (start : GoCache α) (empty : start.items = [])
    (events : List (StatsEvent α)) : ((start.runEvents events).items.map Prod.fst).Nodup := by
  induction events using List.reverseRecOn with
  | nil => simp [GoCache.runEvents, empty]
  | append_singleton pre event induction =>
      rw [GoCache.runEvents_append_singleton]
      cases event with
      | janitor now => exact induction.sublist (List.Sublist.map _ (List.filter_sublist _))
      | getPodStats uid now fetched later =>
          rcases GoCache.getPodStats_cases (start.runEvents pre) uid now fetched later with
            ⟨_, -, called⟩ | ⟨-, _, -, called⟩ | ⟨-, _, -, called⟩
          · simpa [GoCache.apply, called] using induction
          · simpa [GoCache.apply, called] using induction
          · simpa [GoCache.apply, called, GoCache.set] using nodup_keys_mapInsert induction

/-- On a cache with distinct keys, `DeleteExpired` at `t` changes no `Get` at a clock `now ≥ t`:
it removes only items that have expired by then. -/
theorem get_deleteExpired {c : GoCache α} (nodup : (c.items.map Prod.fst).Nodup) {t now : Int}
    (after : t ≤ now) (k : String) : (c.deleteExpired t).get now k = c.get now k := by
  simp only [GoCache.get, GoCache.deleteExpired]
  rw [@lookup_filter_of_nodup _ _ (fun item => !item.expired t) k nodup]
  cases c.items.lookup k with
  | none => rfl
  | some item =>
      cases expired : item.expired t
      · simp [Option.filter, expired]
      · have stillExpired : item.expired now = true := by
          simp only [CacheItem.expired, Bool.and_eq_true, decide_eq_true_eq] at expired ⊢
          omega
        simp [Option.filter, expired, stillExpired]

/-- The janitor of a cache `WrapCachedPodStatsGetter` made is unobservable: after any run, a
`DeleteExpired` at `t` changes no `Get` at a clock `now ≥ t`. -/
theorem janitor_unobservable (ttlSeconds : Int) (events : List (StatsEvent α)) {t now : Int}
    (after : t ≤ now) (k : String) :
    (((wrapCachedPodStatsGetter ttlSeconds).runEvents events).deleteExpired t).get now k =
      ((wrapCachedPodStatsGetter ttlSeconds).runEvents events).get now k :=
  get_deleteExpired (keys_nodup_runEvents _ rfl events) after k

end Janitor

/-- Stats stored at a clock before the epoch never expire: with a TTL of one second, stats fetched
at `-5 s` are served at `100 s` without a call of the wrapped getter. And a TTL of `2^55 + 1`
seconds wraps to one second of nanoseconds: stats fetched at `0` are fetched again at `2 s`. -/
theorem getPodStats_ttl_not_honoured :
    (((wrapCachedPodStatsGetter 1).runEvents
        [.getPodStats "u" (-5000000000) (.ok 1) (-5000000000)]).getPodStats "u" 100000000000
        (.ok (2 : Nat)) 100000000000) =
      ⟨.ok 1, (wrapCachedPodStatsGetter 1).runEvents
        [.getPodStats "u" (-5000000000) (.ok 1) (-5000000000)], false⟩ ∧
    StatsOutcome.calledGetter (((wrapCachedPodStatsGetter 36028797018963969).runEvents
        [.getPodStats "u" 0 (.ok 1) 0]).getPodStats "u" 2000000000 (.ok (2 : Nat)) 2000000000) =
      true := by
  decide

end AzureAci

import AzureAci.Metrics.Cache

/-!
# The stats cache refines its purpose

What the pod stats cache is for, stated without its items: a call serves the stats most recently
fetched for the pod's UID while the clock is within the default expiration `d` of the `Set` that
stored them, and otherwise asks the wrapped getter and records the stats it returns. This level
keeps only the history of fetches, and a janitor pass does nothing there.

`Implements` relates a `GoCache` to the history of the run that built it. Every call and every
janitor pass keeps it, and under it `Get` is `serve`. So over every run whose clock readings never
go back and lie in `[0, 2^63 - d)`, the cache `WrapCachedPodStatsGetter` makes gives each caller
the answer of the abstract level, calls the wrapped getter exactly when that level does, and
fetches exactly the history it records.
-/

namespace AzureAci

/-- What one call does at the abstract level. -/
structure HistoryOutcome (α : Type) where
  /-- The stats returned, or the error. -/
  result : Except GoError α
  /-- The fetches after the call: the pod's UID, the stats and the clock of their `Set`. -/
  history : List (String × α × Int)
  /-- Whether the call asked the wrapped getter. -/
  calledGetter : Bool
  deriving DecidableEq, Repr

namespace StatsHistory

variable {α : Type}

/-- The stats most recently fetched for `k`, with the clock of the `Set` that stored them. -/
def latest (history : List (String × α × Int)) (k : String) : Option (α × Int) :=
  history.reverse.lookup k

/-- What a cache with default expiration `d` serves at `now`: the stats most recently fetched for
`k`, until `d` after the `Set` that stored them. -/
def serve (d : Int) (history : List (String × α × Int)) (now : Int) (k : String) : Option α :=
  match latest history k with
  | some (stats, stored) => if now ≤ stored + d then some stats else none
  | none => none

/-- A `getPodStats` call: served stats, or else the wrapped getter's answer, whose stats are
recorded with the clock `later` of their `Set`. -/
def getPodStats (d : Int) (history : List (String × α × Int)) (uid : String) (now : Int)
    (fetched : Except GoError α) (later : Int) : HistoryOutcome α :=
  match serve d history now uid with
  | some stats => ⟨.ok stats, history, false⟩
  | none =>
      match fetched with
      | .error err => ⟨.error err, history, true⟩
      | .ok stats => ⟨.ok stats, history ++ [(uid, stats, later)], true⟩

/-- The answers of a run's calls, each with whether it asked the wrapped getter. -/
def answers (d : Int) :
    List (String × α × Int) → List (StatsEvent α) → List (Except GoError α × Bool)
  | _, [] => []
  | history, .getPodStats uid now fetched later :: events =>
      let call := getPodStats d history uid now fetched later
      (call.result, call.calledGetter) :: answers d call.history events
  | history, .janitor _ :: events => answers d history events

/-- The history after a run. -/
def run (d : Int) : List (String × α × Int) → List (StatsEvent α) → List (String × α × Int)
  | history, [] => history
  | history, .getPodStats uid now fetched later :: events =>
      run d (getPodStats d history uid now fetched later).history events
  | history, .janitor _ :: events => run d history events

@[simp] theorem latest_append_singleton (history : List (String × α × Int)) (uid k : String)
    (stats : α) (later : Int) :
    latest (history ++ [(uid, stats, later)]) k =
      if k = uid then some (stats, later) else latest history k := by
  by_cases same : k = uid
  · simp [latest, same]
  · simp [latest, List.lookup_cons, beq_eq_false_iff_ne.mpr same, same]

end StatsHistory

namespace GoCache

variable {α : Type}

/-- The answers of a run's calls, each with whether it called the wrapped getter. -/
def answers : GoCache α → List (StatsEvent α) → List (Except GoError α × Bool)
  | _, [] => []
  | c, .getPodStats uid now fetched later :: events =>
      let call := c.getPodStats uid now fetched later
      (call.result, call.calledGetter) :: answers call.cache events
  | c, .janitor now :: events => answers (c.deleteExpired now) events

end GoCache

section Implements

variable {α : Type} (d : Int)

/-- The cache `c` implements `history` after the clock readings `readings`, for the default
expiration `d`. -/
structure Implements (readings : List Int) (c : GoCache α) (history : List (String × α × Int)) :
    Prop where
  /-- The keys are distinct. -/
  nodup : (c.items.map Prod.fst).Nodup
  /-- Each item holds the stats most recently fetched for its key, and expires `d` after their
  `Set`. -/
  stored : ∀ k item, c.items.lookup k = some item → ∃ stored,
    StatsHistory.latest history k = some (item.object, stored) ∧ item.expiration = stored + d
  /-- A key fetched but without an item has expired before one of the readings. -/
  dropped : ∀ k stats stored, c.items.lookup k = none →
    StatsHistory.latest history k = some (stats, stored) → ∃ t ∈ readings, stored + d < t
  /-- Every `Set` was at or after the epoch. -/
  nonneg : ∀ k stats stored, StatsHistory.latest history k = some (stats, stored) → 0 ≤ stored

variable {d} {readings : List Int} {c : GoCache α} {history : List (String × α × Int)}

theorem implements_nil (empty : c.items = []) : Implements d [] c [] :=
  ⟨by simp [empty], by simp [empty], by simp [StatsHistory.latest], by simp [StatsHistory.latest]⟩

theorem Implements.mono {readings' : List Int} (impl : Implements d readings c history)
    (grown : ∀ t ∈ readings, t ∈ readings') : Implements d readings' c history :=
  { impl with
    dropped := fun k stats stored absent latest =>
      let ⟨t, read, passed⟩ := impl.dropped k stats stored absent latest
      ⟨t, grown t read, passed⟩ }

/-- Under the relation, `Get` at a clock no earlier than the readings is `serve`. -/
theorem Implements.get_eq_serve (impl : Implements d readings c history) (positive : 0 < d)
    {now : Int} (before : ∀ t ∈ readings, t ≤ now) (k : String) :
    c.get now k = StatsHistory.serve d history now k := by
  unfold GoCache.get StatsHistory.serve
  cases found : c.items.lookup k with
  | some item =>
      obtain ⟨stored, latest, expires⟩ := impl.stored k item found
      have after := impl.nonneg k _ stored latest
      simp only [latest, CacheItem.expired, expires]
      by_cases late : now ≤ stored + d
      · rw [if_pos late, if_neg (by simp only [Bool.and_eq_true, decide_eq_true_eq]; omega)]
      · rw [if_neg late, if_pos (by simp only [Bool.and_eq_true, decide_eq_true_eq]; omega)]
  | none =>
      cases latest : StatsHistory.latest history k with
      | none => rfl
      | some fetch =>
          obtain ⟨t, read, passed⟩ := impl.dropped k fetch.1 fetch.2 found latest
          have := before t read
          simp only
          rw [if_neg (by omega)]

theorem Implements.deleteExpired (impl : Implements d readings c history) (now : Int) :
    Implements d (readings ++ [now]) (c.deleteExpired now) history where
  nodup := impl.nodup.sublist (List.Sublist.map _ (List.filter_sublist _))
  stored k item found := by
    simp only [GoCache.deleteExpired] at found
    rw [@lookup_filter_of_nodup _ _ (fun item => !item.expired now) k impl.nodup] at found
    exact impl.stored k item (Option.filter_eq_some.mp found).1
  dropped k stats stored absent latest := by
    simp only [GoCache.deleteExpired] at absent
    rw [@lookup_filter_of_nodup _ _ (fun item => !item.expired now) k impl.nodup] at absent
    cases found : c.items.lookup k with
    | none =>
        obtain ⟨t, read, passed⟩ := impl.dropped k stats stored found latest
        exact ⟨t, List.mem_append_left _ read, passed⟩
    | some item =>
        obtain ⟨stored', latest', expires⟩ := impl.stored k item found
        rw [latest] at latest'
        simp only [Option.some.injEq, Prod.mk.injEq] at latest'
        cases expired : item.expired now
        · simp [found, Option.filter, expired] at absent
        · simp only [CacheItem.expired, Bool.and_eq_true, decide_eq_true_eq] at expired
          exact ⟨now, by simp, by omega⟩
  nonneg := impl.nonneg

theorem Implements.set (impl : Implements d readings c history) (positive : 0 < d)
    (expiration : c.defaultExpiration = d) {later : Int} (nonneg : 0 ≤ later)
    (fits : later + d < 9223372036854775808) (uid : String) (stats : α) :
    Implements d readings (c.set later uid stats cacheDefaultExpiration)
      (history ++ [(uid, stats, later)]) := by
  subst expiration
  have items := GoCache.set_items (k := uid) (x := stats) positive nonneg fits
  refine ⟨items ▸ nodup_keys_mapInsert impl.nodup, fun k item found => ?_,
    fun k _ _ absent latest => ?_, fun k _ _ latest => ?_⟩
  all_goals rw [StatsHistory.latest_append_singleton] at *
  · rw [items, lookup_mapInsert] at found
    split at found
    · cases found
      exact ⟨later, if_pos ‹_›, rfl⟩
    · obtain ⟨stored, latest, expires⟩ := impl.stored k item found
      exact ⟨stored, (if_neg ‹_›).trans latest, expires⟩
  · rw [items, lookup_mapInsert] at absent
    split at absent
    · cases absent
    · simp only [‹¬k = uid›, if_false] at latest
      exact impl.dropped k _ _ absent latest
  · split at latest
    · cases latest
      exact nonneg
    · exact impl.nonneg k _ _ latest

/-- One call keeps the relation, and gives the caller the abstract level's answer: both serve
the same stats, or both ask the wrapped getter, and the cache's fetch is the one recorded. -/
theorem Implements.getPodStats (impl : Implements d readings c history) (positive : 0 < d)
    (expiration : c.defaultExpiration = d) {uid : String} {now later : Int}
    {fetched : Except GoError α} (before : ∀ t ∈ readings, t ≤ now) (nonneg : 0 ≤ later)
    (fits : later + d < 9223372036854775808) :
    let call := c.getPodStats uid now fetched later
    let spec := StatsHistory.getPodStats d history uid now fetched later
    call.result = spec.result ∧ call.calledGetter = spec.calledGetter ∧
      history ++ (c.fetchOf (.getPodStats uid now fetched later)).toList = spec.history ∧
      Implements d (readings ++ [now, later]) call.cache spec.history := by
  have grown : ∀ t ∈ readings, t ∈ readings ++ [now, later] :=
    fun t read => List.mem_append_left _ read
  intro call spec
  simp only [call, spec, GoCache.fetchOf, GoCache.getPodStats, StatsHistory.getPodStats,
    impl.get_eq_serve positive before uid]
  cases StatsHistory.serve d history now uid with
  | some stats => exact ⟨rfl, rfl, by simp, impl.mono grown⟩
  | none =>
      cases fetched with
      | error err => exact ⟨rfl, rfl, by simp, impl.mono grown⟩
      | ok stats =>
          exact ⟨rfl, rfl, rfl, (impl.set positive expiration nonneg fits uid stats).mono grown⟩

/-- Over a run whose clock readings, after `readings`, never go back and lie in `[0, 2^63 - d)`,
the cache gives each caller the abstract level's answer and fetches what that level records. -/
theorem Implements.answers (positive : 0 < d) {events : List (StatsEvent α)} :
    ∀ {readings : List Int} {c : GoCache α} {history : List (String × α × Int)},
      Implements d readings c history → c.defaultExpiration = d →
      (readings ++ clockReadings events).Pairwise (· ≤ ·) →
      (∀ t ∈ clockReadings events, 0 ≤ t ∧ t + d < 9223372036854775808) →
        c.answers events = StatsHistory.answers d history events ∧
          history ++ c.fetches events = StatsHistory.run d history events := by
  induction events with
  | nil =>
      intro readings c history _ _ _ _
      simp [GoCache.answers, StatsHistory.answers, GoCache.fetches, StatsHistory.run]
  | cons event events induction =>
      intro readings c history impl expiration monotone within
      cases event with
      | janitor now =>
          have rest := induction (impl.deleteExpired now)
            (by simpa [GoCache.deleteExpired] using expiration)
            (by simpa [StatsEvent.readings] using monotone)
            (fun t read => within t (by simp [StatsEvent.readings, read]))
          simpa [GoCache.answers, StatsHistory.answers, GoCache.fetches, GoCache.fetchOf,
            GoCache.apply, StatsHistory.run] using rest
      | getPodStats uid now fetched later =>
          have last : later ∈ clockReadings (.getPodStats uid now fetched later :: events) := by
            simp [StatsEvent.readings]
          obtain ⟨-, -, ordered⟩ := List.pairwise_append.mp monotone
          obtain ⟨result, called, recorded, impl'⟩ :=
            impl.getPodStats positive expiration
              (fun t read => ordered t read now (by simp [StatsEvent.readings]))
              (within later last).1 (within later last).2
          have expiration' : (c.getPodStats uid now fetched later).cache.defaultExpiration = d := by
            simpa [GoCache.apply, expiration] using
              GoCache.defaultExpiration_apply c (.getPodStats uid now fetched later)
          obtain ⟨answered, ran⟩ := induction impl' expiration'
            (by simpa [StatsEvent.readings] using monotone)
            (fun t read => within t (by simp [read]))
          refine ⟨?_, ?_⟩
          · simp only [GoCache.answers, StatsHistory.answers, result, called, answered]
          · rw [GoCache.fetches, GoCache.apply, ← List.append_assoc, recorded, ran]
            rfl

end Implements

/-- The cache `WrapCachedPodStatsGetter` makes, with a positive TTL that fits in an `int64` count
of nanoseconds, refines the abstract level: over every run whose clock readings never go back and
lie at or after the epoch with room for the TTL below `2^63`, each call returns what `serve` and
the abstract `getPodStats` give (the stats most recently fetched for the UID while within the TTL
of their `Set`, and otherwise the wrapped getter's answer), calls the wrapped getter exactly when
the abstract level does, and the run fetches exactly the history that level records. -/
theorem getPodStats_refines_history {α : Type} (ttlSeconds : Int) (positive : 0 < ttlSeconds)
    (fits : ttlSeconds * 1000000000 < 9223372036854775808) (events : List (StatsEvent α))
    (monotone : (clockReadings events).Pairwise (· ≤ ·))
    (within : ∀ t ∈ clockReadings events,
      0 ≤ t ∧ t + ttlSeconds * 1000000000 < 9223372036854775808) :
    (wrapCachedPodStatsGetter ttlSeconds).answers events =
        StatsHistory.answers (ttlSeconds * 1000000000) [] events ∧
      (wrapCachedPodStatsGetter ttlSeconds).fetches events =
        StatsHistory.run (ttlSeconds * 1000000000) [] events := by
  simpa using Implements.answers (by omega) (implements_nil rfl)
    (defaultExpiration_wrapCachedPodStatsGetter positive fits) monotone within

/-- A run with a TTL of one second: stats fetched at `0`, served at half a second, a janitor pass
at one and a half seconds, and stats fetched again at two seconds. -/
def oneSecondRun : List (StatsEvent Nat) :=
  [.getPodStats "u" 0 (.ok 1) 0, .getPodStats "u" 500000000 (.ok 2) 500000000,
    .janitor 1500000000, .getPodStats "u" 2000000000 (.ok 3) 2000000000]

theorem oneSecondRun_refines_history :
    (0 : Int) < 1 ∧ (1 : Int) * 1000000000 < 9223372036854775808 ∧
      (clockReadings oneSecondRun).Pairwise (· ≤ ·) ∧
      (∀ t ∈ clockReadings oneSecondRun, 0 ≤ t ∧ t + 1 * 1000000000 < 9223372036854775808) ∧
      (wrapCachedPodStatsGetter 1).answers oneSecondRun =
          StatsHistory.answers (1 * 1000000000) [] oneSecondRun ∧
        (wrapCachedPodStatsGetter 1).fetches oneSecondRun =
          StatsHistory.run (1 * 1000000000) [] oneSecondRun :=
  ⟨by decide, by decide, by decide, by decide,
    getPodStats_refines_history 1 (by decide) (by decide) oneSecondRun (by decide) (by decide)⟩

example : StatsHistory.answers (1 * 1000000000) [] oneSecondRun =
    [(.ok 1, true), (.ok 1, false), (.ok 3, true)] := by decide

end AzureAci

import Mathlib.Data.List.TakeWhile
import RobotTrading.Config.Load
import RobotTrading.Proofs.Market.Positive

/-!
# The order of the configuration checks

Loading a configuration runs fifteen checks, one after the other: the
environment, then the engine's settings, the feed's, and the database's pool
size. `Config.checks` lists them in that order, each as the refusal it raises
for a lookup, and each reads only its own variables (the feed's range check
reads the three feed values it judges). The first check that fails decides the
refusal; when none fails, every setting holds what its variable reads as, or its
default when the variable is unset, and the configuration is within the bounds
the daemon relies on. With no variable set it is the default configuration.

## Main definitions

* `Config.checks`, `Config.firstFailure` : the checks in order, and the first refusal.
* `Config.Reads` : a configuration holds what each setting of a lookup reads as.
* `Config.Sane` : the bounds the daemon relies on.

## Main statements

* `Config.setting_eq_ok_iff` : a setting is its variable's value, or the default when unset.
* `Config.load_eq_error_iff` : the refusal is that of the first failing check.
* `Config.load_follows_checks` : the refusal, the settings and the defaults together.
-/

namespace RobotTrading

namespace Config

/-! ### Settings -/

section Setting

variable {α : Type} {read : String → Option α} {shown : String → String} {vars : Lookup}
  {key : String} {default : α}

/-- A setting is the default when its variable is unset, and otherwise what the variable's
    text reads as. -/
theorem setting_eq_ok_iff {a : α} :
    setting read shown vars key default = .ok a ↔
      (vars key = none ∧ a = default) ∨ ∃ v, vars key = some v ∧ read v = some a := by
  unfold setting
  cases hv : vars key with
  | none => simp [eq_comm]
  | some v => cases hr : read v <;> simp [hr]

/-- A setting is refused exactly when its variable is set to a text that does not read. -/
theorem setting_eq_error_iff {e : ConfigError} :
    setting read shown vars key default = .error e ↔
      ∃ v, vars key = some v ∧ read v = none ∧ e = .badValue key (shown v) := by
  unfold setting
  cases hv : vars key with
  | none => simp
  | some v => cases hr : read v <;> simp [hr, eq_comm]

end Setting

/-- A capacity that reads is positive. -/
theorem pos_of_capacity {vars : Lookup} {key : String} {d n : Nat} (h : capacity vars key d = .ok n) :
    0 < n := by
  unfold capacity at h
  obtain ⟨m, -, h⟩ := Except.exists_of_bind_eq_ok h
  by_cases hm : m = 0
  · simp [hm] at h
    cases h
  · simp only [hm, if_false] at h
    cases h
    omega

/-- A text trims to nothing exactly when all its characters are blanks. -/
theorem trimBlank_isEmpty_iff (u : String) :
    (Text.trimBlank u).isEmpty = true ↔ ∀ ch ∈ u.toList, Text.isBlank ch = true := by
  simp only [Text.trimBlank, String.isEmpty_iff, String.ofList_eq_empty_iff, Text.trimBlankList,
    List.reverse_eq_nil_iff, List.dropWhile_eq_nil_iff, List.mem_reverse]
  constructor
  · -- what is left after the leading blanks starts with a character that is not one
    intro h ch hch
    by_contra hb
    cases hd : u.toList.dropWhile Text.isBlank with
    | nil => exact hb (List.dropWhile_eq_nil_iff.1 hd ch hch)
    | cons d ds =>
      have hd' := @List.head_dropWhile_not _ Text.isBlank u.toList (by simp [hd])
      simp only [hd, List.head_cons] at hd'
      simp [h d (by simp [hd])] at hd'
  · intro h ch hch
    exact h ch ((List.dropWhile_sublist _).subset hch)

/-! ### The checks -/

/-- A check of the configuration: the refusal it raises for a lookup, if it fails. -/
abbrev Check := Lookup → Option ConfigError

/-- The refusal of a reading, if it is one. -/
def refusal? {α : Type} : Except ConfigError α → Option ConfigError
  | .ok _ => none
  | .error e => some e

/-- A setting that must be positive: a value of zero is refused. -/
def positive (vars : Lookup) (key : String) (default : Nat) : Option ConfigError :=
  if unsigned vars 64 key default = .ok 0 then some (.notPositive key) else none

/-- The feed's values are out of range: the start price is not positive, or the spread or
    the step is negative. Only values that read are judged. -/
def feedRange (vars : Lookup) : Option ConfigError :=
  match decimal vars "ROBOTRADE_FEED_START_PRICE" FeedConfig.default.startPrice,
    decimal vars "ROBOTRADE_FEED_SPREAD" FeedConfig.default.spread,
    decimal vars "ROBOTRADE_FEED_MAX_STEP" FeedConfig.default.maxStep with
  | .ok start, .ok spread, .ok step =>
    if (!start.isPos || spread.isNeg || step.isNeg) = true then some .feedOutOfRange else none
  | _, _, _ => none

/-- The environment's check: one of the known names, lower-cased but not trimmed. -/
def environmentChecks : List Check := [fun v => refusal? (loadEnvironment v)]

/-- The engine's checks: the reconcile interval reads and is positive, then the round-trip
    flag, the hub and worker capacities, the resubscribe flag and the broadcast capacity. -/
def engineChecks : List Check := [
  fun v => refusal? (unsigned v 64 "ROBOTRADE_RECONCILE_INTERVAL_SECS" 3),
  fun v => positive v "ROBOTRADE_RECONCILE_INTERVAL_SECS" 3,
  fun v => refusal? (flag v "ROBOTRADE_SAME_TICK_ROUND_TRIP" false),
  fun v => refusal? (capacity v "ROBOTRADE_HUB_CAPACITY" EngineConfig.default.hubCapacity),
  fun v => refusal? (capacity v "ROBOTRADE_WORKER_CAPACITY" EngineConfig.default.workerCapacity),
  fun v => refusal? (flag v "ROBOTRADE_RESUBSCRIBE_STALLED_FEEDS" true),
  fun v => refusal? (capacity v "ROBOTRADE_BROADCAST_CAPACITY" EngineConfig.default.broadcastCapacity)]

/-- The feed's checks: the start price, spread, step and interval read, then the range of
    the three prices, then the interval is positive. -/
def feedChecks : List Check := [
  fun v => refusal? (decimal v "ROBOTRADE_FEED_START_PRICE" FeedConfig.default.startPrice),
  fun v => refusal? (decimal v "ROBOTRADE_FEED_SPREAD" FeedConfig.default.spread),
  fun v => refusal? (decimal v "ROBOTRADE_FEED_MAX_STEP" FeedConfig.default.maxStep),
  fun v => refusal? (unsigned v 64 "ROBOTRADE_FEED_INTERVAL_MS" 500),
  feedRange,
  fun v => positive v "ROBOTRADE_FEED_INTERVAL_MS" 500]

/-- The database's check: the pool size reads as a 32-bit count. -/
def databaseChecks : List Check := [fun v => refusal? (unsigned v 32 "ROBOTRADE_DB_MAX_CONNECTIONS" 5)]

/-- Every check, in the order they run. -/
def checks : List Check := environmentChecks ++ engineChecks ++ feedChecks ++ databaseChecks

/-- The refusal of the first check that fails. -/
def firstFailure (vars : Lookup) : Option ConfigError := checks.findSome? (· vars)

/-! ### Refusals -/

section Refusal

variable {vars : Lookup}

theorem eq_error_iff_of_refusal {α : Type} {x : Except ConfigError α} {c : Check}
    (hc : c vars = refusal? x) (e : ConfigError) :
    x = .error e ↔ [c].findSome? (· vars) = some e := by
  cases x <;> simp_all [refusal?]

/-- A run that starts with a part of its own fails where that part fails first, and
    otherwise where the rest fails first. -/
theorem bind_eq_error_iff {α β : Type} {x : Except ConfigError α} {k : α → Except ConfigError β}
    {cs₁ cs₂ : List Check} (hx : ∀ e, x = .error e ↔ cs₁.findSome? (· vars) = some e)
    (hk : ∀ a, x = .ok a → ∀ e, k a = .error e ↔ cs₂.findSome? (· vars) = some e)
    (e : ConfigError) :
    x >>= k = .error e ↔ (cs₁ ++ cs₂).findSome? (· vars) = some e := by
  rw [List.findSome?_append]
  cases x with
  | error e' =>
    have h₁ := (hx e').1 rfl
    rw [h₁, Option.some_or]
    exact ⟨fun h => by cases h; rfl, fun h => by cases h; rfl⟩
  | ok a =>
    have h₁ : cs₁.findSome? (· vars) = none := by
      cases h : cs₁.findSome? (· vars) with
      | none => rfl
      | some e' => cases (hx e').2 h
    rw [h₁, Option.none_or]
    exact hk a rfl e

/-- A run that starts with one reading fails where the reading fails, and otherwise where
    the rest fails first. -/
theorem bind_eq_error_iff_cons {α β : Type} {x : Except ConfigError α}
    {k : α → Except ConfigError β} {c : Check} {cs : List Check} (hc : c vars = refusal? x)
    (hk : ∀ a, x = .ok a → ∀ e, k a = .error e ↔ cs.findSome? (· vars) = some e) (e : ConfigError) :
    x >>= k = .error e ↔ (c :: cs).findSome? (· vars) = some e :=
  bind_eq_error_iff (eq_error_iff_of_refusal hc) hk e

/-- A run that starts by refusing when `b` holds fails there, and otherwise where the rest
    fails first. -/
theorem guard_eq_error_iff {β : Type} {b : Prop} [Decidable b] {x : ConfigError}
    {rest : Except ConfigError β} {c : Check} {cs : List Check}
    (hc : c vars = if b then some x else none)
    (hk : ¬b → ∀ e, rest = .error e ↔ cs.findSome? (· vars) = some e) (e : ConfigError) :
    (if b then (throw x : Except ConfigError PUnit) >>= (fun _ => rest) else rest) = .error e ↔
      (c :: cs).findSome? (· vars) = some e := by
  rw [List.findSome?_cons, hc]
  by_cases hb : b
  · simp only [if_pos hb]
    exact ⟨fun h => by cases h; rfl, fun h => by cases h; rfl⟩
  · simp only [if_neg hb]
    exact hk hb e

/-- A finished run refuses nothing. -/
theorem pure_eq_error_iff {α : Type} (a : α) (e : ConfigError) :
    (pure a : Except ConfigError α) = .error e ↔ ([] : List Check).findSome? (· vars) = some e := by
  simp [pure, Except.pure]

theorem loadEnvironment_eq_error_iff (e : ConfigError) :
    loadEnvironment vars = .error e ↔ environmentChecks.findSome? (· vars) = some e :=
  eq_error_iff_of_refusal rfl e

theorem loadEngine_eq_error_iff (e : ConfigError) :
    loadEngine vars = .error e ↔ engineChecks.findSome? (· vars) = some e := by
  unfold loadEngine
  refine bind_eq_error_iff_cons rfl (fun secs hsecs => ?_) e
  refine guard_eq_error_iff (by simp [positive, hsecs]) fun _ => ?_
  refine bind_eq_error_iff_cons rfl fun _ _ => ?_
  refine bind_eq_error_iff_cons rfl fun _ _ => ?_
  refine bind_eq_error_iff_cons rfl fun _ _ => ?_
  refine bind_eq_error_iff_cons rfl fun _ _ => ?_
  refine bind_eq_error_iff_cons rfl fun _ _ => ?_
  exact pure_eq_error_iff _

theorem loadFeed_eq_error_iff (e : ConfigError) :
    loadFeed vars = .error e ↔ feedChecks.findSome? (· vars) = some e := by
  unfold loadFeed
  refine bind_eq_error_iff_cons rfl (fun start hstart => ?_) e
  refine bind_eq_error_iff_cons rfl fun spread hspread => ?_
  refine bind_eq_error_iff_cons rfl fun step hstep => ?_
  refine bind_eq_error_iff_cons rfl fun interval hinterval => ?_
  refine guard_eq_error_iff (by simp only [feedRange, hstart, hspread, hstep]) fun _ => ?_
  refine guard_eq_error_iff (by simp [positive, hinterval]) fun _ => ?_
  exact pure_eq_error_iff _

theorem loadDatabase_eq_error_iff (e : ConfigError) :
    loadDatabase vars = .error e ↔ databaseChecks.findSome? (· vars) = some e := by
  unfold loadDatabase
  exact bind_eq_error_iff_cons rfl (fun _ _ => pure_eq_error_iff _) e

/-- **The first failing check decides.** A lookup is refused exactly with the refusal of the
    first check, in the order of `checks`, that fails for it. -/
theorem load_eq_error_iff (e : ConfigError) : load vars = .error e ↔ firstFailure vars = some e := by
  unfold load firstFailure checks
  simp only [List.append_assoc]
  refine bind_eq_error_iff loadEnvironment_eq_error_iff (fun _ _ => ?_) e
  refine bind_eq_error_iff loadEngine_eq_error_iff fun _ _ => ?_
  refine bind_eq_error_iff loadFeed_eq_error_iff fun _ _ => ?_
  rw [← List.append_nil databaseChecks]
  exact bind_eq_error_iff loadDatabase_eq_error_iff fun _ _ => pure_eq_error_iff _

end Refusal

/-! ### Accepted lookups -/

/-- A configuration holds what each setting of the lookup reads as; the database address is
    unset exactly when its variable is unset or blank, and is otherwise kept as written. -/
structure Reads (vars : Lookup) (c : Config) : Prop where
  environment : loadEnvironment vars = .ok c.environment
  reconcile : ∃ secs, unsigned vars 64 "ROBOTRADE_RECONCILE_INTERVAL_SECS" 3 = .ok secs ∧
    c.engine.reconcileIntervalMs = secs * 1000
  sameTick : ∃ b, flag vars "ROBOTRADE_SAME_TICK_ROUND_TRIP" false = .ok b ∧
    c.engine.dealPolicy = if b then .sameTickRoundTrip else .oneLegPerTick
  hub : capacity vars "ROBOTRADE_HUB_CAPACITY" 64 = .ok c.engine.hubCapacity
  worker : capacity vars "ROBOTRADE_WORKER_CAPACITY" 16 = .ok c.engine.workerCapacity
  resubscribe : flag vars "ROBOTRADE_RESUBSCRIBE_STALLED_FEEDS" true = .ok c.engine.resubscribeStalledFeeds
  broadcast : capacity vars "ROBOTRADE_BROADCAST_CAPACITY" 256 = .ok c.engine.broadcastCapacity
  startPrice : decimal vars "ROBOTRADE_FEED_START_PRICE" FeedConfig.default.startPrice = .ok c.feed.startPrice
  spread : decimal vars "ROBOTRADE_FEED_SPREAD" FeedConfig.default.spread = .ok c.feed.spread
  maxStep : decimal vars "ROBOTRADE_FEED_MAX_STEP" FeedConfig.default.maxStep = .ok c.feed.maxStep
  interval : unsigned vars 64 "ROBOTRADE_FEED_INTERVAL_MS" 500 = .ok c.feed.intervalMs
  pool : unsigned vars 32 "ROBOTRADE_DB_MAX_CONNECTIONS" 5 = .ok c.database.maxConnections
  urlUnset : c.database.url = none ↔
    ∀ u, vars "DATABASE_URL" = some u → ∀ ch ∈ u.toList, Text.isBlank ch = true
  urlKept : ∀ u, c.database.url = some u → vars "DATABASE_URL" = some u

/-- The bounds the daemon relies on: a reconcile pass at most once a second, queues and the
    broadcast ring of at least one slot, a positive start price, a spread and a step that are
    not negative, and ticks at most once a millisecond. -/
structure Sane (c : Config) : Prop where
  reconcile : 1000 ≤ c.engine.reconcileIntervalMs
  hub : 0 < c.engine.hubCapacity
  worker : 0 < c.engine.workerCapacity
  broadcast : 0 < c.engine.broadcastCapacity
  startPrice : c.feed.startPrice.isPos = true
  spread : c.feed.spread.isNeg = false
  maxStep : c.feed.maxStep.isNeg = false
  interval : 0 < c.feed.intervalMs

section Accepted

variable {vars : Lookup}

theorem loadEngine_eq_ok {g : EngineConfig} (h : loadEngine vars = .ok g) :
    (∃ secs, unsigned vars 64 "ROBOTRADE_RECONCILE_INTERVAL_SECS" 3 = .ok secs ∧ 0 < secs ∧
      g.reconcileIntervalMs = secs * 1000) ∧
    (∃ b, flag vars "ROBOTRADE_SAME_TICK_ROUND_TRIP" false = .ok b ∧
      g.dealPolicy = if b then .sameTickRoundTrip else .oneLegPerTick) ∧
    capacity vars "ROBOTRADE_HUB_CAPACITY" 64 = .ok g.hubCapacity ∧
    capacity vars "ROBOTRADE_WORKER_CAPACITY" 16 = .ok g.workerCapacity ∧
    flag vars "ROBOTRADE_RESUBSCRIBE_STALLED_FEEDS" true = .ok g.resubscribeStalledFeeds ∧
    capacity vars "ROBOTRADE_BROADCAST_CAPACITY" 256 = .ok g.broadcastCapacity := by
  unfold loadEngine at h
  obtain ⟨secs, hsecs, h⟩ := Except.exists_of_bind_eq_ok h
  by_cases h0 : secs = 0
  · -- a zero interval is refused
    rw [if_pos h0] at h
    cases h
  · rw [if_neg h0] at h
    obtain ⟨b, hb, h⟩ := Except.exists_of_bind_eq_ok h
    obtain ⟨hub, hhub, h⟩ := Except.exists_of_bind_eq_ok h
    obtain ⟨worker, hworker, h⟩ := Except.exists_of_bind_eq_ok h
    obtain ⟨resubscribe, hresubscribe, h⟩ := Except.exists_of_bind_eq_ok h
    obtain ⟨broadcast, hbroadcast, h⟩ := Except.exists_of_bind_eq_ok h
    cases h
    exact ⟨⟨secs, hsecs, Nat.pos_of_ne_zero h0, rfl⟩, ⟨b, hb, rfl⟩, hhub, hworker, hresubscribe,
      hbroadcast⟩

theorem loadFeed_eq_ok {g : FeedConfig} (h : loadFeed vars = .ok g) :
    decimal vars "ROBOTRADE_FEED_START_PRICE" FeedConfig.default.startPrice = .ok g.startPrice ∧
    decimal vars "ROBOTRADE_FEED_SPREAD" FeedConfig.default.spread = .ok g.spread ∧
    decimal vars "ROBOTRADE_FEED_MAX_STEP" FeedConfig.default.maxStep = .ok g.maxStep ∧
    unsigned vars 64 "ROBOTRADE_FEED_INTERVAL_MS" 500 = .ok g.intervalMs ∧
    g.startPrice.isPos = true ∧ g.spread.isNeg = false ∧ g.maxStep.isNeg = false ∧
    0 < g.intervalMs := by
  unfold loadFeed at h
  obtain ⟨start, hstart, h⟩ := Except.exists_of_bind_eq_ok h
  obtain ⟨spread, hspread, h⟩ := Except.exists_of_bind_eq_ok h
  obtain ⟨step, hstep, h⟩ := Except.exists_of_bind_eq_ok h
  obtain ⟨interval, hinterval, h⟩ := Except.exists_of_bind_eq_ok h
  by_cases hr : (!start.isPos || spread.isNeg || step.isNeg) = true
  · -- values out of range are refused
    rw [if_pos hr] at h
    cases h
  · rw [if_neg hr] at h
    by_cases h0 : interval = 0
    · rw [if_pos h0] at h
      cases h
    · rw [if_neg h0] at h
      cases h
      simp only [Bool.or_eq_true, not_or] at hr
      exact ⟨hstart, hspread, hstep, hinterval, by simpa using hr.1.1, by simpa using hr.1.2,
        by simpa using hr.2, Nat.pos_of_ne_zero h0⟩

theorem loadDatabase_eq_ok {g : DatabaseConfig} (h : loadDatabase vars = .ok g) :
    g.url = (vars "DATABASE_URL").filter (fun u => !(Text.trimBlank u).isEmpty) ∧
    unsigned vars 32 "ROBOTRADE_DB_MAX_CONNECTIONS" 5 = .ok g.maxConnections := by
  unfold loadDatabase at h
  obtain ⟨pool, hpool, h⟩ := Except.exists_of_bind_eq_ok h
  cases h
  exact ⟨rfl, hpool⟩

/-- An accepted lookup gives a configuration that holds what each setting reads as, within
    the daemon's bounds. -/
theorem reads_of_load_eq_ok {c : Config} (h : load vars = .ok c) : Reads vars c ∧ Sane c := by
  unfold load at h
  obtain ⟨env, henv, h⟩ := Except.exists_of_bind_eq_ok h
  obtain ⟨engine, hengine, h⟩ := Except.exists_of_bind_eq_ok h
  obtain ⟨feed, hfeed, h⟩ := Except.exists_of_bind_eq_ok h
  obtain ⟨db, hdb, h⟩ := Except.exists_of_bind_eq_ok h
  cases h
  obtain ⟨⟨secs, hsecs, hpos, hms⟩, hsame, hhub, hworker, hresubscribe, hbroadcast⟩ :=
    loadEngine_eq_ok hengine
  obtain ⟨hstart, hspread, hstep, hinterval, hstart', hspread', hstep', hinterval'⟩ :=
    loadFeed_eq_ok hfeed
  obtain ⟨hurl, hpool⟩ := loadDatabase_eq_ok hdb
  refine ⟨⟨henv, ⟨secs, hsecs, hms⟩, hsame, hhub, hworker, hresubscribe, hbroadcast, hstart,
    hspread, hstep, hinterval, hpool, ?_, ?_⟩, ⟨?_, pos_of_capacity hhub, pos_of_capacity hworker,
    pos_of_capacity hbroadcast, hstart', hspread', hstep', hinterval'⟩⟩
  · -- a blank address counts as unset
    simp only [hurl, Option.filter_eq_none_iff, Bool.not_eq_true', Bool.not_eq_false]
    exact forall_congr' fun u => imp_congr_right fun _ => trimBlank_isEmpty_iff u
  · intro u hu
    simp only [hurl] at hu
    exact (Option.filter_eq_some_iff.1 hu).1
  · simp only [hms]
    omega

/-- **Loading follows the checks.** For every lookup, a refusal is that of the first check that
    fails, in the order of `checks`; when none fails the lookup is accepted, and the
    configuration holds what each setting reads as (its default when unset) and is within the
    daemon's bounds. With no variable set the configuration is the default one. -/
theorem load_follows_checks (vars : Lookup) :
    (∀ e, load vars = .error e ↔ firstFailure vars = some e) ∧
      (firstFailure vars = none → ∃ c, load vars = .ok c ∧ Reads vars c ∧ Sane c) ∧
      load (fun _ => none) = .ok Config.default := by
  refine ⟨load_eq_error_iff, fun hnone => ?_, rfl⟩
  cases h : load vars with
  | error e =>
    have := (load_eq_error_iff e).1 h
    rw [hnone] at this
    cases this
  | ok c => exact ⟨c, rfl, reads_of_load_eq_ok h⟩

end Accepted

end Config

end RobotTrading

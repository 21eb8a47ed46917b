import DueDispatch.Settings.Config

/-!
# DueDispatch — accepted configurations

`Config.check` looks at the settings one after another and reports the first that it does
not take. So a configuration that it accepts has none of the faults: it is `Sound`, and
that is all there is to being accepted.

What is accepted is what was asked for. `Carries` says of every setting how its value
stands in the configuration: as it is, except that seconds and milliseconds become spans
of time, that zero seconds between reports mean no reports, and that the queue has the
server of the leases unless it is given another.

## Results

* `faults_eq_nil_iff` — a configuration without faults is a sound one.
* `check_eq_ok_iff` — which configuration is accepted.
* `carries_ofValues` — how the values of the settings stand in it.
-/

namespace DueDispatch.Config

open Duration (nanosPerMilli nanosPerSec)

variable {values : Values} {c : Config}

/-- Nothing is wrong with a configuration, taken alone or together. -/
structure Sound (c : Config) : Prop where
  databaseUrl : c.databaseUrl ≠ ""
  redisUrl : c.redisUrl ≠ ""
  accountsTable : Postgres.isIdent c.accountsTable.toList = true
  ready : c.policy.ready.secs ≠ 0
  expired : c.policy.expired.secs ≠ 0
  cap : 0 < c.policy.cap
  chunkSize : 0 < c.chunkSize
  chunkSize_le_cap : c.chunkSize ≤ c.policy.cap
  tickPeriod : 0 < c.tickPeriod.toNanos
  maxInFlight : 0 < c.maxInFlight
  dbMaxConnections : 0 < c.dbMaxConnections
  leaseNamespace : c.leaseNamespace ≠ ""
  queueChannel : c.queueChannel ≠ ""

/-- A configuration without faults is a sound one. -/
theorem faults_eq_nil_iff : c.faults = [] ↔ c.Sound := by
  constructor
  · intro hNone
    simp only [faults, List.filterMap_eq_nil_iff, List.forall_mem_cons, ite_eq_right_iff,
      reduceCtorEq, imp_false, Bool.not_eq_true, Bool.not_eq_false', decide_eq_false_iff_not,
      beq_eq_false_iff_ne, String.isEmpty_eq_false_iff, Nat.not_lt, List.not_mem_nil,
      false_implies, implies_true, and_true] at hNone
    obtain ⟨hDatabase, hRedis, hTable, hReady, hExpired, hCap, hChunk, hFits, hTick, hSlots,
      hConnections, hLeases, hQueue⟩ := hNone
    exact ⟨hDatabase, hRedis, hTable, hReady, hExpired, Nat.pos_of_ne_zero hCap,
      Nat.pos_of_ne_zero hChunk, hFits, Nat.pos_of_ne_zero hTick, Nat.pos_of_ne_zero hSlots,
      Nat.pos_of_ne_zero hConnections, hLeases, hQueue⟩
  · intro hSound
    simp [faults, hSound.databaseUrl, hSound.redisUrl, hSound.accountsTable, hSound.ready,
      hSound.expired, Nat.ne_of_gt hSound.cap, Nat.ne_of_gt hSound.chunkSize,
      hSound.chunkSize_le_cap, Nat.ne_of_gt hSound.tickPeriod, Nat.ne_of_gt hSound.maxInFlight,
      Nat.ne_of_gt hSound.dbMaxConnections, hSound.leaseNamespace, hSound.queueChannel]

/-- **Which configuration is accepted**: the one that the values describe, if it is
sound. -/
theorem check_eq_ok_iff : check values = .ok c ↔ c = ofValues values ∧ c.Sound := by
  unfold check
  constructor
  · intro hCheck
    split at hCheck
    · rename_i hNone
      obtain rfl := Except.ok.inj hCheck
      exact ⟨rfl, faults_eq_nil_iff.mp hNone⟩
    · contradiction
  · rintro ⟨rfl, hSound⟩
    rw [faults_eq_nil_iff.mpr hSound]

/-- An accepted configuration is sound. -/
theorem sound_of_check (hCheck : check values = .ok c) : c.Sound := (check_eq_ok_iff.mp hCheck).2

/-- An accepted configuration holds the values as they are. -/
theorem eq_of_check (hCheck : check values = .ok c) : c = ofValues values :=
  (check_eq_ok_iff.mp hCheck).1

/-- An interval of count reports that was accepted is not zero. -/
theorem countReportInterval_pos (hCheck : check values = .ok c) {period : Duration}
    (hInterval : c.countReportInterval = some period) : 0 < period.toNanos := by
  rw [eq_of_check hCheck] at hInterval
  simp only [ofValues] at hInterval
  split at hInterval
  · contradiction
  · rename_i hSome
    rw [← Option.some.inj hInterval, Duration.toNanos_ofSecs]
    refine Nat.mul_pos (Nat.pos_of_ne_zero fun hZero => hSome ?_) (by decide)
    exact UInt64.toNat_inj.mp hZero

/-- The drain time is one of whole seconds. -/
theorem dvd_shutdownTimeout (hCheck : check values = .ok c) :
    Duration.nanosPerMilli ∣ c.shutdownTimeout.toNanos := by
  rw [eq_of_check hCheck]
  simp only [ofValues, Duration.toNanos_ofSecs]
  exact Nat.dvd_mul_left_of_dvd (by decide) _

-- ---------------------------------------------------------------------------
-- What becomes of the values
-- ---------------------------------------------------------------------------

/-- How the values of the settings stand in a configuration. -/
structure Carries (c : Config) (values : Values) : Prop where
  databaseUrl : values .databaseUrl = some c.databaseUrl
  redisUrl : values .redisUrl = some c.redisUrl
  /-- The queue has a server of its own only if one is named. -/
  queueRedisUrl : ∀ url, values .queueRedisUrl = some url → url ≠ "" → c.queueRedisUrl = url
  queueRedisUrl_of_unnamed : (∀ url, values .queueRedisUrl = some url → url = "") →
    c.queueRedisUrl = c.redisUrl
  accountsTable : values .accountsTable = some c.accountsTable
  ready : (values .readyThresholdSecs).map (·.toNat * nanosPerSec) = some c.policy.ready.toNanos
  expired :
    (values .expiredThresholdSecs).map (·.toNat * nanosPerSec) = some c.policy.expired.toNanos
  cap : (values .batchCap).map (·.toNat) = some c.policy.cap
  chunkSize : (values .chunkSize).map (·.toNat) = some c.chunkSize
  tickPeriod : (values .tickPeriodMs).map (·.toNat * nanosPerMilli) = some c.tickPeriod.toNanos
  maxInFlight : (values .maxInFlight).map (·.toNat) = some c.maxInFlight
  shutdownTimeout :
    (values .shutdownTimeoutSecs).map (·.toNat * nanosPerSec) = some c.shutdownTimeout.toNanos
  dbMaxConnections : (values .dbMaxConnections).map (·.toNat) = some c.dbMaxConnections
  leaseNamespace : values .leaseNamespace = some c.leaseNamespace
  queueChannel : values .queueChannel = some c.queueChannel
  /-- Zero seconds mean no reports. -/
  countReportInterval :
    (values .countReportIntervalSecs).map
      (fun secs => if secs = 0 then none else some (secs.toNat * nanosPerSec)) =
        some (c.countReportInterval.map (·.toNanos))
  logFormat : values .logFormat = some c.logFormat

/-- A configuration carries the values that it is made of, if only the queue may be
without one. -/
theorem carries_ofValues (hGiven : ∀ s ≠ .queueRedisUrl, (values s).isSome) :
    (ofValues values).Carries values := by
  -- a setting with a value never falls back on the one that stands in for none
  have hKept : ∀ s ≠ Setting.queueRedisUrl, ∀ d, values s = some ((values s).getD d) := by
    intro s hOther d
    obtain ⟨v, hValue⟩ := Option.isSome_iff_exists.mp (hGiven s hOther)
    rw [hValue, Option.getD_some]
  have hMapped : ∀ s ≠ Setting.queueRedisUrl, ∀ {α : Type} (f : s.Value → α) (d : s.Value),
      (values s).map f = some (f ((values s).getD d)) :=
    fun s hOther _ f d => congrArg (Option.map f) (hKept s hOther d)
  exact {
    databaseUrl := hKept .databaseUrl (by decide) _
    redisUrl := hKept .redisUrl (by decide) _
    queueRedisUrl := fun url hUrl hNamed => by simp [ofValues, hUrl, hNamed]
    queueRedisUrl_of_unnamed := fun hUnnamed => by
      cases hUrl : values .queueRedisUrl with
      | none => simp [ofValues, hUrl]
      | some url => simp [ofValues, hUrl, hUnnamed url hUrl]
    accountsTable := hKept .accountsTable (by decide) _
    ready := by
      rw [ofValues, Duration.toNanos_ofSecs]
      exact hMapped .readyThresholdSecs (by decide) _ 0
    expired := by
      rw [ofValues, Duration.toNanos_ofSecs]
      exact hMapped .expiredThresholdSecs (by decide) _ 0
    cap := hMapped .batchCap (by decide) _ 0
    chunkSize := hMapped .chunkSize (by decide) _ 0
    tickPeriod := by
      rw [ofValues, Duration.toNanos_ofMillis]
      exact hMapped .tickPeriodMs (by decide) _ 0
    maxInFlight := hMapped .maxInFlight (by decide) _ 0
    shutdownTimeout := by
      rw [ofValues, Duration.toNanos_ofSecs]
      exact hMapped .shutdownTimeoutSecs (by decide) _ 0
    dbMaxConnections := hMapped .dbMaxConnections (by decide) _ 0
    leaseNamespace := hKept .leaseNamespace (by decide) _
    queueChannel := hKept .queueChannel (by decide) _
    countReportInterval := by
      rw [hMapped .countReportIntervalSecs (by decide) _ 0]
      simp only [ofValues]
      split
      · rfl
      · rw [Option.map_some, Duration.toNanos_ofSecs]
    logFormat := hKept .logFormat (by decide) _ }

end DueDispatch.Config

import DueDispatch.Proofs.Schedule.Closing
import DueDispatch.Proofs.Schedule.Counts
import DueDispatch.Proofs.Service.Components

/-!
# DueDispatch — how a service ends

After the first signal the cycles are given the drain time, and after the second one no
time at all. The count reports are given the time of the count under way, whatever the
signals are. So the whole service ends within the drain time if and only if that count
does.

## Results

* `stop_of_signals` — a schedule under signals stops within its drain time and not after
  the second signal.
* `config_of_launch` — a service that was launched has settings that were accepted.
* `over_after_signals` — when a service is over.
-/

namespace DueDispatch

-- ---------------------------------------------------------------------------
-- The schedule
-- ---------------------------------------------------------------------------

namespace Schedule

variable {W J : Type} {settings : Settings} {first : Nat}

/-- The end of the drain time that begins with the first signal, or the second signal if
that comes before. -/
def closeTime (drain first : Nat) (later : List Nat) : Nat :=
  match later with
  | [] => fires (first + drain)
  | second :: _ => min (fires (first + drain)) second

theorem le_fires_add (first drain : Nat) : first ≤ fires (first + drain) :=
  Nat.le_trans (Nat.le_add_right ..) (le_fires _)

theorem first_le_closeTime {later : List Nat} (hOrder : ∀ second ∈ later.head?, first ≤ second)
    (drain : Nat) : first ≤ closeTime drain first later := by
  cases later with
  | nil => exact le_fires_add first drain
  | cons second _ => exact Nat.le_min.mpr ⟨le_fires_add first drain, hOrder second rfl⟩

/-- What the first signal makes of a schedule: the clock does not jump before it, so it
meets one that ticks. -/
theorem closing_of_signal (settings : Settings) (w : Workload W J) (world : W) (first : Nat) :
    let s := State.advance settings w { world } (first, .shutdown)
    s.now = first ∧
      (Closing first (fires (first + settings.drain)) s ∨ StoppedWithin first first s) := by
  have hStart : Paced 0 first 0 ({ world } : State W J) := ⟨rfl, Nat.le_refl _, Nat.zero_le _⟩
  obtain ⟨next, hPaced⟩ := hStart.runUntil settings w
  obtain ⟨hMet, hNow⟩ := hPaced.met
  rw [Nat.zero_max] at hNow
  refine ⟨(State.now_shutdown settings _).trans hNow, ?_⟩
  have hShutdown := closing_of_shutdown hMet.phase settings
  rwa [hNow] at hShutdown

/-- **A schedule under signals stops within its drain time**, and not after the second
signal. -/
theorem stop_of_signals (hAbortable : settings.abortable = true) (w : Workload W J) (world : W)
    {later : List Nat} (hOrder : ∀ second ∈ later.head?, first ≤ second) :
    StoppedWithin first (closeTime settings.drain first later)
      (run settings w (signalScript (first :: later)) world) := by
  obtain ⟨hNow, hShutdown⟩ := closing_of_signal settings w world first
  cases later with
  | nil =>
    show StoppedWithin first _
      ((State.advance settings w { world } (first, .shutdown)).finish settings w)
    rcases hShutdown with hCloses | hStopped
    · exact hCloses.finish settings w
    · exact (hStopped.mono (le_fires_add first settings.drain)).finish settings w
  | cons second rest =>
    have hSecond : first ≤ second := hOrder second rfl
    have hLimit : first ≤ closeTime settings.drain first (second :: rest) :=
      first_le_closeTime hOrder settings.drain
    show StoppedWithin first _ (State.finish settings w (State.advance settings w
      (State.advance settings w { world } (first, .shutdown)) (second, .abort)))
    refine StoppedWithin.finish ?_ settings w
    rcases hShutdown with hCloses | hStopped
    · exact hCloses.advance_abort (Nat.le_trans (Nat.le_of_eq hNow) hSecond) hAbortable w
    · exact (hStopped.mono hLimit).advance settings w (second, .abort)

end Schedule

-- ---------------------------------------------------------------------------
-- Settings that were accepted
-- ---------------------------------------------------------------------------

/-- Stages that succeed together succeed one after another. -/
theorem Startup.andThen_eq_ok {σ α β : Type} {out : Except StartFault α × σ}
    {next : α → σ → Except StartFault β × σ} {b : β} {s' : σ}
    (hOut : andThen out next = (.ok b, s')) :
    ∃ a s, out = (.ok a, s) ∧ next a s = (.ok b, s') := by
  obtain ⟨result, s⟩ := out
  cases result with
  | error fault => simp at hOut
  | ok a => exact ⟨a, s, rfl, hOut⟩

/-- What follows two stages follows the second one. -/
theorem Startup.andThen_assoc {σ α β γ : Type} (out : Except StartFault α × σ)
    (next : α → σ → Except StartFault β × σ) (last : β → σ → Except StartFault γ × σ) :
    andThen (andThen out next) last = andThen out fun a s => andThen (next a s) last := by
  obtain ⟨result, s⟩ := out
  cases result <;> rfl

section

variable {σ : Type} {network : Network σ} {args : List String} {envFile : Option String}
  {env : Environment} {v : Service σ} {s s' : σ}

theorem launch_of_error {exit : Exit}
    (hConfigure : configure args (loadEnvFile envFile env) = .error exit) (s : σ) :
    launch network args envFile env s = (.error exit, s) := by
  simp only [launch, hConfigure]

theorem launch_of_failed {c : Config}
    (hConfigure : configure args (loadEnvFile envFile env) = .ok c) {fault : StartFault}
    (hStart : Service.start network (loadEnvFile envFile env) c s = (.error fault, s')) :
    launch network args envFile env s = (.error (.ofFailure fault.message), s') := by
  simp only [launch, hConfigure, hStart]

theorem launch_of_started {c : Config}
    (hConfigure : configure args (loadEnvFile envFile env) = .ok c)
    (hStart : Service.start network (loadEnvFile envFile env) c s = (.ok v, s')) :
    launch network args envFile env s = (.ok v, s') := by
  simp only [launch, hConfigure, hStart]

/-- A service keeps the configuration that it was started with. -/
theorem Service.config_of_start {config : Config}
    (hStart : Service.start network env config s = (.ok v, s')) : v.config = config := by
  obtain ⟨_, _, -, hTable⟩ := Startup.andThen_eq_ok hStart
  obtain ⟨_, _, -, hLeases⟩ := Startup.andThen_eq_ok hTable
  obtain ⟨_, _, -, hQueue⟩ := Startup.andThen_eq_ok hLeases
  obtain ⟨_, _, -, hOk⟩ := Startup.andThen_eq_ok hQueue
  obtain rfl := Except.ok.inj (Prod.mk.inj hOk).1
  rfl

/-- **A service that was launched has settings that were accepted.** -/
theorem config_of_launch (hLaunch : launch network args envFile env s = (.ok v, s')) :
    ∃ values, Config.check values = .ok v.config := by
  unfold launch at hLaunch
  simp only at hLaunch
  split at hLaunch
  · simp at hLaunch
  · rename_i config hConfigure
    obtain ⟨values, -, hCheck⟩ := configure_eq_ok hConfigure
    split at hLaunch
    · simp at hLaunch
    · rename_i service s'' hStart
      obtain rfl := Except.ok.inj (Prod.mk.inj hLaunch).1
      exact ⟨values, by rwa [Service.config_of_start hStart]⟩

end

-- ---------------------------------------------------------------------------
-- The service
-- ---------------------------------------------------------------------------

open Schedule (CountReports.Ends CountReports.State Remote StoppedWithin closeTime fires maxSlots
  stop_of_signals)
open Duration (nanosPerMilli nanosPerSec)

variable {σ : Type}

/-- Whether both halves of a service are over by a time. -/
def Run.OverBy (limit : Nat) (r : Run σ) : Prop :=
  (∃ stop, r.cycles.phase = .stopped stop ∧ stop ≤ limit) ∧
    ∀ counts, r.counts = some counts → counts.OverBy limit

/-- If the cycles are over, the count reports decide. -/
theorem Run.overBy_iff {limit : Nat} {r : Run σ} {counts : CountReports.State σ}
    (hCycles : ∃ stop, r.cycles.phase = .stopped stop ∧ stop ≤ limit)
    (hCounts : r.counts = some counts) : r.OverBy limit ↔ counts.OverBy limit := by
  rw [Run.OverBy, hCounts]
  simp only [hCycles, true_and, Option.some.injEq, forall_eq']

/-- The count reports as the first signal finds them, if there are any. -/
def Service.countsAt (v : Service σ) (latency : Nat → Nat) (first : Nat) (s : σ) :
    Option (CountReports.State σ) :=
  v.config.countReportInterval.bind fun period =>
    if hPeriod : 0 < period.toNanos then
      some (CountReports.State.runUntil (v.counter latency) period.toNanos hPeriod first
        { world := s })
    else none

namespace Service

variable {v : Service σ} {values : Values}

/-- The first signal shuts down, and the others abort. -/
theorem aborts_signalScript (W : Type) (first : Nat) (later : List Nat) :
    ∃ rest : Schedule.Script W, signalScript (first :: later) = (first, .shutdown) :: rest ∧
      ∀ entry ∈ rest, entry.2 = .abort := by
  cases later with
  | nil => exact ⟨[], rfl, by simp⟩
  | cons second _ => exact ⟨[(second, .abort)], rfl, by simp⟩

/-- The count reports end as the first signal finds them. -/
theorem ends_runCounts (hCheck : Config.check values = .ok v.config) (latency : Nat → Nat)
    (first : Nat) (later : List Nat) (s : σ) :
    (v.countsAt latency first s = none ∧ v.runCounts latency (first :: later) s = .ok none) ∨
      ∃ before counts, v.countsAt latency first s = some before ∧
        v.runCounts latency (first :: later) s = .ok (some counts) ∧
          CountReports.Ends (v.counter latency) first before counts := by
  cases hInterval : v.config.countReportInterval with
  | none =>
    left
    simp only [countsAt, runCounts, hInterval, Option.bind_none, and_self]
  | some period =>
    right
    have hPeriod := Config.countReportInterval_pos hCheck hInterval
    obtain ⟨rest, hScript, hRest⟩ := aborts_signalScript σ first later
    have hEnds := Schedule.CountReports.ends_of_shutdown (v.counter latency) hPeriod first hRest s
    rw [← hScript] at hEnds
    refine ⟨_, _, ?_, ?_, hEnds⟩
    · rw [countsAt, hInterval, Option.bind_some, dif_pos hPeriod]
    · rw [runCounts, hInterval]
      show Except.map some (Schedule.CountReports.run _ _ _ _) = _
      rw [Schedule.CountReports.run, dif_pos hPeriod]
      rfl

/-- More cycles at a time than there can be slots are refused. -/
theorem schedule_eq (hCheck : Config.check values = .ok v.config) :
    (maxSlots < v.config.maxInFlight → v.config.schedule = .error .tooManySlots) ∧
      (v.config.maxInFlight ≤ maxSlots → ∃ settings, v.config.schedule = .ok settings ∧
        settings.drain = v.config.shutdownTimeout.toNanos ∧ settings.abortable = true) := by
  refine ⟨Config.schedule_of_lt _, fun hFew => ?_⟩
  obtain ⟨settings, hSettings, -, hDrain, hAbortable⟩ := Config.schedule_of_le hCheck hFew
  exact ⟨settings, hSettings, hDrain, hAbortable⟩

end Service

/-- **When a service is over.** A service was launched. With more cycles at a time than
there can be slots its schedule cannot be set up. Otherwise, whatever the backends do and
however long they take, after a first signal at `first`

* the schedule stops within the drain time, and not after the second signal if there is
  one,
* the count reports, if they are enabled, are over at once if no count is under way and
  else with that count, however long it takes,
* so both are over by then if and only if that count is.

A first signal at a whole millisecond leaves the drain time as it was configured. -/
theorem over_after_signals {network : Network σ} {args : List String} {envFile : Option String}
    {env : Environment} {v : Service σ} {s s' : σ}
    (hLaunch : launch network args envFile env s = (.ok v, s')) (remote : Remote σ)
    (latency : Nat → Nat) (clock : Nat → Timestamp) (first : Nat) (later : List Nat)
    (hOrder : ∀ second ∈ later.head?, first ≤ second) (start : σ) :
    let timeout := v.config.shutdownTimeout.toNanos
    let limit := closeTime timeout first later
    (maxSlots < v.config.maxInFlight →
      v.run remote latency clock (first :: later) start = .error .tooManySlots) ∧
    (v.config.maxInFlight ≤ maxSlots →
      ∃ r, v.run remote latency clock (first :: later) start = .ok r ∧
        StoppedWithin first limit r.cycles ∧
        (v.countsAt latency first start = none → r.counts = none) ∧
        (∀ before, v.countsAt latency first start = some before →
          ∃ counts, r.counts = some counts ∧
            CountReports.Ends (v.counter latency) first before counts) ∧
        (r.OverBy limit ↔ ∀ before ends next, v.countsAt latency first start = some before →
          before.phase = .counting ends next → ends ≤ limit)) ∧
    (nanosPerMilli ∣ first →
      closeTime timeout first [] = first + timeout ∧
        ∀ second rest,
          closeTime timeout first (second :: rest) = min (first + timeout) second) := by
  intro timeout limit
  obtain ⟨values, hCheck⟩ := config_of_launch hLaunch
  obtain ⟨hMany, hFew⟩ := Service.schedule_eq hCheck
  refine ⟨fun hSlots => ?_, fun hSlots => ?_, fun hWhole => ?_⟩
  · rw [Service.run, Service.runCycles, hMany hSlots]
    rfl
  · obtain ⟨settings, hSettings, hDrain, hAbortable⟩ := hFew hSlots
    have hStop := stop_of_signals hAbortable
      (Schedule.cycles v.config.dispatcher remote clock) { state := start } hOrder
    rw [hDrain] at hStop
    have hFirst : first ≤ limit := Schedule.first_le_closeTime hOrder timeout
    obtain ⟨stop, hPhase, -, hStopLimit⟩ := id hStop
    have hCycles : v.runCycles remote clock (first :: later) start =
        .ok (Schedule.run settings (Schedule.cycles v.config.dispatcher remote clock)
          (signalScript (first :: later)) { state := start }) := by
      rw [Service.runCycles, hSettings]
      rfl
    -- the cycles stop in time anyway, so the counts decide, if there are any
    rcases Service.ends_runCounts hCheck latency first later start with
      ⟨hNone, hCounts⟩ | ⟨before, counts, hBefore, hCounts, hEnds⟩
    · refine ⟨⟨_, none⟩, ?_, hStop, fun _ => rfl, by simp [hNone], ?_⟩
      · rw [Service.run, hCycles, hCounts]
        rfl
      · exact iff_of_true ⟨⟨stop, hPhase, hStopLimit⟩, by simp⟩ (by simp [hNone])
    · refine ⟨⟨_, some counts⟩, ?_, hStop, by simp [hBefore], ?_, ?_⟩
      · rw [Service.run, hCycles, hCounts]
        rfl
      · intro before' hSame
        obtain rfl := Option.some.inj (hBefore.symm.trans hSame)
        exact ⟨counts, rfl, hEnds⟩
      · rw [Run.overBy_iff ⟨stop, hPhase, hStopLimit⟩ rfl, hEnds.overBy_iff hFirst]
        constructor
        · intro hAll before' ends next hSame
          obtain rfl := Option.some.inj (hBefore.symm.trans hSame)
          exact hAll ends next
        · exact fun hAll ends next => hAll before ends next hBefore
  · have hDrain := Config.dvd_shutdownTimeout hCheck
    have hClose : fires (first + timeout) = first + timeout :=
      Schedule.fires_eq_of_dvd (Nat.dvd_add hWhole hDrain)
    exact ⟨hClose, fun second _ => congrArg (min · second) hClose⟩

-- ---------------------------------------------------------------------------
-- A count that takes long
-- ---------------------------------------------------------------------------

/-- A database without accounts. -/
def emptyPostgres : Postgres.Server Unit where
  connect s := (.ok (), s)
  ask
    | .claim .., s => (.ok [], s)
    | .count _, s => (.ok [0], s)
    | .probe, s => (.ok (), s)
    | .begin, s => (.ok (), s)
    | .commit, s => (.ok (), s)
    | .rollback, s => (.ok (), s)

def replyingRedis : Redis.Server Unit where
  connect s := (.ok (), s)
  ask _ s := (.ok (.simple "PONG"), s)

def smallNetwork : Network Unit := ⟨fun _ => emptyPostgres, fun _ => replyingRedis⟩

/-- All other settings have their defaults: a count every 30 s and five seconds to drain. -/
def shortArgs : List String := ["--database-url", "postgres://h/d", "--redis-url", "redis://h"]

theorem isIdent_accounts : Postgres.isIdent "accounts".toList = true := by decide

/-- The service that these arguments start. -/
def smallService : Service Unit where
  config := {
    databaseUrl := "postgres://h/d"
    redisUrl := "redis://h"
    queueRedisUrl := "redis://h"
    accountsTable := "accounts"
    policy := { ready := .ofSecs 60, expired := .ofSecs 300, cap := 1000 }
    chunkSize := 100
    tickPeriod := .ofMillis 1000
    maxInFlight := 1
    shutdownTimeout := .ofSecs 5
    dbMaxConnections := 5
    leaseNamespace := defaultKeyspace
    queueChannel := defaultChannel
    countReportInterval := some (.ofSecs 30)
    logFormat := .pretty }
  table := ⟨"accounts", isIdent_accounts⟩
  peers := ⟨emptyPostgres, replyingRedis, replyingRedis⟩

theorem configure_shortArgs :
    configure shortArgs (loadEnvFile none fun _ => none) = .ok smallService.config := by
  decide +kernel

def smallDatabase : Postgres.Endpoint := { host := "h" }

def smallRedis : Redis.Endpoint := .tcp "h" 6379

open Startup in
/-- The URLs of this configuration are accepted, so the startup only depends on the servers
that they name. -/
theorem start_smallConfig {σ : Type} (network : Network σ) (s : σ) :
    Service.start network (loadEnvFile none fun _ => none) smallService.config s =
      andThen (reach .connectPostgres (network.postgres smallDatabase).openConnection s) fun _ s =>
        andThen (reach .pingPostgres (network.postgres smallDatabase).ping s) fun _ s =>
          andThen (reach .pingLeases (network.redis smallRedis).ping s) fun _ s =>
            andThen (reach .pingQueue (network.redis smallRedis).ping s) fun _ s =>
              (.ok ⟨smallService.config, smallService.table, network.postgres smallDatabase,
                network.redis smallRedis, network.redis smallRedis⟩, s) := by
  have hDatabase : Postgres.checkUrl (loadEnvFile none fun _ => none)
      smallService.config.databaseUrl = .ok smallDatabase := by decide +kernel
  have hRedis : Redis.checkUrl smallService.config.redisUrl = .ok smallRedis := by
    decide +kernel
  have hTable : Postgres.checkTable smallService.config.accountsTable =
      .ok smallService.table := rfl
  have hShared : smallService.config.queueRedisUrl = smallService.config.redisUrl := rfl
  have hPostgresAt : network.postgresAt smallDatabase = network.postgres smallDatabase := rfl
  have hRedisAt : network.redisAt smallRedis = network.redis smallRedis := rfl
  simp only [Service.start, openPostgres, checkPostgres, reachLeases, reachQueue, check,
    hDatabase, hRedis, hTable, hPostgresAt, hRedisAt, if_pos hShared, Except.mapError,
    andThen_ok, andThen_assoc]

theorem launch_smallService :
    launch smallNetwork shortArgs none (fun _ => none) () = (.ok smallService, ()) :=
  launch_of_started configure_shortArgs (start_smallConfig smallNetwork ())

/-- Calls of the cycles take an hour. -/
def slowRemote : Remote Unit where
  send _ s := (3600 * nanosPerSec, s)
  answer _ := smallService.backends

/-- A service whose cycles take hours and whose counts take this long, under signals. -/
def signalled (latency : Nat) (signals : List Nat) : Except Schedule.Fault (Run Unit) :=
  smallService.run slowRemote (fun _ => latency) (fun _ => ⟨0⟩) signals ()

/-- Five seconds after the signal the cycles are given up, and a count of two seconds is
over by then. -/
theorem over_after_signals_short :
    let limit := closeTime smallService.config.shutdownTimeout.toNanos nanosPerMilli []
    launch smallNetwork shortArgs none (fun _ => none) () = (.ok smallService, ()) ∧
      smallService.config.maxInFlight ≤ maxSlots ∧ limit = 5001 * nanosPerMilli ∧
      ∃ r, signalled (2 * nanosPerSec) [nanosPerMilli] = .ok r ∧
        StoppedWithin nanosPerMilli limit r.cycles ∧ r.OverBy limit := by
  intro limit
  have hFew : smallService.config.maxInFlight ≤ maxSlots := by decide
  obtain ⟨-, hRun, hLimit⟩ := over_after_signals launch_smallService slowRemote
    (fun _ => 2 * nanosPerSec) (fun _ => ⟨0⟩) nanosPerMilli [] (by simp) ()
  obtain ⟨r, hOk, hStop, -, -, hOver⟩ := hRun hFew
  refine ⟨launch_smallService, hFew, ?_, r, hOk, hStop, hOver.mpr ?_⟩
  · exact (hLimit (Nat.dvd_refl _)).1.trans (by decide)
  · intro before ends next hBefore hCounting
    have hPhase : (smallService.countsAt (fun _ => 2 * nanosPerSec) nanosPerMilli ()).map
        (fun s => s.phase) = some (.counting (2 * nanosPerSec) (30 * nanosPerSec)) := by cbv
    rw [hBefore, Option.map_some, hCounting] at hPhase
    obtain ⟨rfl, -⟩ : ends = 2 * nanosPerSec ∧ _ := by simpa using hPhase
    decide

theorem exists_late {run : Except Schedule.Fault (Run Unit)} {limit stop : Nat}
    (hPhase : run.map (fun r => r.counts.map fun s => s.phase) = .ok (some (.stopped stop)))
    (hLate : limit < stop) : ∃ r, run = .ok r ∧ ¬r.OverBy limit := by
  obtain ⟨r, rfl⟩ : ∃ r, run = .ok r := by
    cases run with
    | error fault => contradiction
    | ok r => exact ⟨r, rfl⟩
  refine ⟨r, rfl, ?_⟩
  obtain ⟨counts, hCounts, hStopped⟩ : ∃ counts, r.counts = some counts ∧
      counts.phase = .stopped stop := by simpa [Except.map] using hPhase
  rintro ⟨-, hOver⟩
  obtain ⟨stop', hStop, hEarly⟩ := hOver counts hCounts
  obtain rfl : stop = stop' := by simpa [hStopped] using hStop
  omega

/-- A count of twenty seconds outlasts the drain time and the second signal. -/
theorem outlasts_signals :
    let timeout := smallService.config.shutdownTimeout.toNanos
    launch smallNetwork shortArgs none (fun _ => none) () = (.ok smallService, ()) ∧
      (∃ r, signalled (20 * nanosPerSec) [nanosPerMilli] = .ok r ∧
        ¬r.OverBy (nanosPerMilli + timeout)) ∧
      ∃ r, signalled (20 * nanosPerSec) [nanosPerMilli, 2 * nanosPerSec] = .ok r ∧
        ¬r.OverBy (min (2 * nanosPerSec) (nanosPerMilli + timeout)) := by
  intro timeout
  have hOne : (signalled (20 * nanosPerSec) [nanosPerMilli]).map
      (fun r => r.counts.map fun s => s.phase) = .ok (some (.stopped (20 * nanosPerSec))) := by
    cbv
  have hTwo : (signalled (20 * nanosPerSec) [nanosPerMilli, 2 * nanosPerSec]).map
      (fun r => r.counts.map fun s => s.phase) = .ok (some (.stopped (20 * nanosPerSec))) := by
    cbv
  exact ⟨launch_smallService, exists_late hOne (by decide), exists_late hTwo (by decide)⟩

end DueDispatch

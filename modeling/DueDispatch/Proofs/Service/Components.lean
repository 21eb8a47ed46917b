import DueDispatch.Proofs.Chunks
import DueDispatch.Proofs.Schedule.Jobs
import DueDispatch.Proofs.Settings.Config
import DueDispatch.Service.Launch
import DueDispatch.Service.Run

/-!
# DueDispatch — what the parts of the program ask of their settings

The settings are checked in one place, and the parts that they are meant for have
conditions of their own: a table name that may stand in SQL, chunks that are not empty, an
interval that is not zero, a number of slots that there can be. An accepted configuration
meets all of them but one. The slots are only checked to be there, and not against their
greatest number: a configuration may ask for more, and its schedule is then refused when
everything else already runs.

## Results

* `Schedule.exists_course_eq_cons` — a schedule begins with a tick that starts a job.
* `Config.components_of_check` — what holds of every accepted configuration, and for
  which number of slots the first tick comes.
-/

namespace DueDispatch

open Schedule (Event Remote Script Workload course maxSlots)

namespace Schedule

variable {W J : Type} {settings : Settings} {w : Workload W J}

/-- A first tick that finds a free slot writes down the start of a job. -/
theorem started_mem_log_tick (hSlots : 0 < settings.slots) (w : Workload W J) (world : W) :
    (0, Event.started 0) ∈ (State.tick settings w 0 { world }).log := by
  have hTick : State.tick settings w 0 ({ world } : State W J) = State.startJob w
      { world, phase := State.phaseAfter settings 0 0 } := if_pos hSlots
  rw [hTick]
  simp only [State.startJob, State.place, State.record]
  -- whatever the job does in its first turn is written down after its start
  split
  · simp
  · simp
  · simp

/-- **A schedule begins with a tick that starts a job**, if nothing comes from outside
before. -/
theorem exists_course_eq_cons (hSlots : 0 < settings.slots) (w : Workload W J)
    {entry : Nat × Step W} (hLater : 0 < entry.1) (rest : Script W) (world : W) :
    ∃ ms, course settings w (entry :: rest) world = ⟨{ world }, .due .tick⟩ :: ms ∧
      (0, Event.started 0) ∈ (Moment.next settings w ⟨{ world }, .due .tick⟩).log := by
  have hDue : ({ world } : State W J).due? = some (0, .tick) := rfl
  obtain ⟨ms, hCourse⟩ : ∃ ms, course settings w (entry :: rest) world =
      ⟨{ world }, .due .tick⟩ :: ms := by
    rw [course, State.moments, State.momentsUntil_of_due hDue hLater, List.cons_append]
    exact ⟨_, rfl⟩
  exact ⟨ms, hCourse, started_mem_log_tick hSlots w world⟩

/-- Counts can be set up that follow one another after some time. -/
theorem CountReports.exists_run_eq_ok (c : CountReports.Counter W) {period : Duration}
    (hPeriod : 0 < period.toNanos) (script : Script W) (world : W) :
    ∃ s, CountReports.run c period script world = .ok s :=
  ⟨_, dif_pos hPeriod⟩

end Schedule

namespace Config

variable {values : Values} {c : Config}

/-- A schedule with as many slots as there can be is set up. -/
theorem schedule_of_le (hCheck : check values = .ok c) (hFew : c.maxInFlight ≤ maxSlots) :
    ∃ settings, c.schedule = .ok settings ∧ settings.slots = c.maxInFlight ∧
      settings.drain = c.shutdownTimeout.toNanos ∧ settings.abortable = true := by
  have hSound := sound_of_check hCheck
  have hSlots : max c.maxInFlight 1 = c.maxInFlight := Nat.max_eq_left hSound.maxInFlight
  exact ⟨_, Schedule.Settings.check_eq_ok true true hSound.tickPeriod hFew, hSlots, rfl, rfl⟩

/-- A schedule with more slots than there can be is refused. -/
theorem schedule_of_lt (c : Config) (hMany : maxSlots < c.maxInFlight) :
    c.schedule = .error .tooManySlots :=
  if_pos (Nat.lt_of_lt_of_le hMany (Nat.le_max_left ..))

/-- **What holds of every accepted configuration.**

* Its table may stand in SQL.
* A chunk is not empty and not larger than a batch, so no size of chunks is raised: every
  chunk but the last has the size that was asked for.
* Ticks follow one another after some time, and so do counts of the accounts if there are
  any: such counts can always be set up.
* If it asks for no more slots than there can be, its schedule is set up with them, and its
  first tick comes and starts a job, whatever happens later.
* If it asks for more, no service with this configuration has a schedule. -/
theorem components_of_check (hCheck : check values = .ok c) :
    (∃ table, Postgres.checkTable c.accountsTable = .ok table ∧ table.name = c.accountsTable) ∧
    (1 ≤ c.chunkSize ∧ c.chunkSize ≤ c.policy.cap ∧
      ∀ ids : List AccountId, ∀ chunk ∈ (chunks c.dispatcher.chunkSize ids).dropLast,
        chunk.length = c.chunkSize) ∧
    0 < c.tickPeriod.toNanos ∧
    (∀ period, c.countReportInterval = some period → 0 < period.toNanos ∧
      ∀ (σ : Type) (v : Service σ) (latency : Nat → Nat) (signals : List Nat) (s : σ),
        v.config = c → ∃ counts, v.runCounts latency signals s = .ok (some counts)) ∧
    (c.maxInFlight ≤ maxSlots → ∃ settings, c.schedule = .ok settings ∧
      settings.slots = c.maxInFlight ∧
      ∀ (W J : Type) (w : Workload W J) (entry : Nat × Schedule.Step W) (rest : Script W)
        (world : W), 0 < entry.1 →
          ∃ ms, course settings w (entry :: rest) world = ⟨{ world }, .due .tick⟩ :: ms ∧
            (0, Event.started 0) ∈ (Schedule.Moment.next settings w ⟨{ world }, .due .tick⟩).log) ∧
    (maxSlots < c.maxInFlight → ∀ (σ : Type) (v : Service σ) (remote : Remote σ)
      (latency : Nat → Nat) (clock : Nat → Timestamp) (signals : List Nat) (s : σ),
        v.config = c → v.run remote latency clock signals s = .error .tooManySlots) := by
  have hSound := sound_of_check hCheck
  refine ⟨?_, ⟨hSound.chunkSize, hSound.chunkSize_le_cap, ?_⟩, hSound.tickPeriod, ?_, ?_, ?_⟩
  · have hTable : Postgres.Table.of? c.accountsTable = some ⟨_, hSound.accountsTable⟩ :=
      dif_pos hSound.accountsTable
    exact ⟨_, by rw [Postgres.checkTable, hTable], rfl⟩
  · intro ids chunk hChunk
    rw [length_of_mem_dropLast_chunks hChunk]
    exact Nat.max_eq_left hSound.chunkSize
  · intro period hInterval
    have hPeriod := countReportInterval_pos hCheck hInterval
    refine ⟨hPeriod, fun σ v latency signals s hConfig => ?_⟩
    obtain ⟨counts, hRun⟩ :=
      Schedule.CountReports.exists_run_eq_ok (v.counter latency) hPeriod (signalScript signals) s
    refine ⟨counts, ?_⟩
    rw [Service.runCounts, hConfig, hInterval]
    exact congrArg (Except.map some) hRun
  · intro hFew
    obtain ⟨settings, hSettings, hSlots, -⟩ := schedule_of_le hCheck hFew
    refine ⟨settings, hSettings, hSlots, fun W J w entry rest world hLater => ?_⟩
    exact Schedule.exists_course_eq_cons (hSlots ▸ hSound.maxInFlight) w hLater rest world
  · intro hMany σ v remote latency clock signals s hConfig
    rw [Service.run, Service.runCycles, hConfig, schedule_of_lt c hMany]
    rfl

end Config

-- ---------------------------------------------------------------------------
-- As many slots as there can be, and one more
-- ---------------------------------------------------------------------------

/-- A configuration was read and accepted. -/
theorem configure_eq_ok {args : List String} {env : Environment} {c : Config}
    (hConfigure : configure args env = .ok c) :
    ∃ values, readSettings args env = .ok values ∧ Config.check values = .ok c := by
  unfold configure at hConfigure
  split at hConfigure
  · contradiction
  · rename_i values hRead
    split at hConfigure
    · contradiction
    · rename_i accepted hAccepted
      exact ⟨values, hRead, hAccepted.trans (congrArg _ (Except.ok.inj hConfigure))⟩

/-- Arguments that name a database and a number of slots. -/
def slotArgs (slots : String) : List String :=
  ["--database-url", "postgres://localhost/accounts", "--max-in-flight", slots]

/-- The configuration with this number of slots and defaults for the rest. -/
def slotConfig (slots : Nat) : Config where
  databaseUrl := "postgres://localhost/accounts"
  redisUrl := "redis://127.0.0.1:6379"
  queueRedisUrl := "redis://127.0.0.1:6379"
  accountsTable := "accounts"
  policy := { ready := .ofSecs 60, expired := .ofSecs 300, cap := 1000 }
  chunkSize := 100
  tickPeriod := .ofMillis 1000
  maxInFlight := slots
  shutdownTimeout := .ofSecs 5
  dbMaxConnections := 5
  leaseNamespace := defaultKeyspace
  queueChannel := defaultChannel
  countReportInterval := some (.ofSecs 30)
  logFormat := .pretty

theorem configure_widest :
    configure (slotArgs "2305843009213693951") (fun _ => none) = .ok (slotConfig maxSlots) := by
  decide +kernel

/-- With as many slots as there can be, the first tick comes. -/
theorem components_of_check_widest :
    ∃ values, readSettings (slotArgs "2305843009213693951") (fun _ => none) = .ok values ∧
      Config.check values = .ok (slotConfig maxSlots) ∧
      (∃ table, Postgres.checkTable "accounts" = .ok table ∧ table.name = "accounts") ∧
      ∃ settings, (slotConfig maxSlots).schedule = .ok settings ∧ settings.slots = maxSlots ∧
        ∃ ms, course settings (Schedule.sleepers fun _ => { span := 37 }) [(1, .shutdown)] () =
          ⟨{ world := () }, .due .tick⟩ :: ms := by
  obtain ⟨values, hRead, hCheck⟩ := configure_eq_ok configure_widest
  obtain ⟨hTable, -, -, -, hFew, -⟩ := Config.components_of_check hCheck
  obtain ⟨settings, hSettings, hSlots, hFirst⟩ := hFew (Nat.le_refl _)
  obtain ⟨ms, hCourse, -⟩ := hFirst _ _ (Schedule.sleepers fun _ => { span := 37 })
    (1, .shutdown) [] () (by decide)
  exact ⟨values, hRead, hCheck, hTable, settings, hSettings, hSlots, ms, hCourse⟩

theorem configure_overfull :
    configure (slotArgs "2305843009213693952") (fun _ => none) =
      .ok (slotConfig (maxSlots + 1)) := by
  decide +kernel

/-- One slot more is accepted by the check and refused by the schedule. -/
theorem exists_accepted_without_schedule :
    ∃ values c, readSettings (slotArgs "2305843009213693952") (fun _ => none) = .ok values ∧
      Config.check values = .ok c ∧ c.schedule = .error .tooManySlots := by
  obtain ⟨values, hRead, hCheck⟩ := configure_eq_ok configure_overfull
  exact ⟨values, _, hRead, hCheck, Config.schedule_of_lt _ (Nat.lt_succ_self _)⟩

end DueDispatch

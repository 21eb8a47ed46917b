import DueDispatch.Proofs.Postgres.Tokens
import DueDispatch.Proofs.Service.Startup

/-!
# DueDispatch — which table is named in a statement

A name is checked twice, once with the other settings and once when the table is opened,
and both checks accept the same names. A service has the table that its configuration
names. From then on every statement that its cycles and its counts ask for names this
table, so no name but the accepted one comes into the text of a statement, and there it
is a token of its own.

## Results

* `checkTable_of_isPlainName`, `checkTable_of_not_isPlainName` — the table of a name.
* `notIdentifier_mem_faults_iff` — the check of the settings accepts the same names.
* `noted_launch`, `Service.namesOwnTable_noted` — how a launch ends, and what a service that
  comes of it names.
* `table_of_statements` — an accepted name is one token of a statement, and no other name
  comes into one.
-/

namespace DueDispatch

open Postgres (IsPlainName SameBut Statement Table checkTable isIdent_iff sqlTexts tokens)

-- ---------------------------------------------------------------------------
-- The two checks
-- ---------------------------------------------------------------------------

namespace Postgres

variable {name : String}

/-- The table of an accepted name. -/
theorem checkTable_of_isPlainName (hName : IsPlainName name) :
    ∃ table, checkTable name = .ok table ∧ table.name = name := by
  have hTable : Table.of? name = some ⟨name, isIdent_iff.mpr hName⟩ :=
    dif_pos (isIdent_iff.mpr hName)
  exact ⟨_, by rw [checkTable, hTable], rfl⟩

/-- No other name has a table. -/
theorem checkTable_of_not_isPlainName (hName : ¬IsPlainName name) :
    checkTable name = .error (.invalidConfig ("invalid accounts table name: " ++
      Text.quoted name)) := by
  have hNone : Table.of? name = none := dif_neg fun hIdent => hName (isIdent_iff.mp hIdent)
  rw [checkTable, hNone]

theorem name_of_checkTable {table : Table} (hTable : checkTable name = .ok table) :
    table.name = name := by
  by_cases hName : IsPlainName name
  · obtain ⟨table', hOk, hSame⟩ := checkTable_of_isPlainName hName
    rwa [Except.ok.inj (hTable.symm.trans hOk)]
  · rw [checkTable_of_not_isPlainName hName] at hTable
    contradiction

/-- Whatever may be asked for names an accepted table, if it names one. -/
theorem Statement.exists_sql_mem (statement : Statement) :
    ∃ name, IsPlainName name ∧ statement.sql ∈ sqlTexts name := by
  cases statement with
  | claim table params =>
    exact ⟨table.name, isIdent_iff.mp table.isIdent_name, by simp [sql, sqlTexts]⟩
  | count table =>
    exact ⟨table.name, isIdent_iff.mp table.isIdent_name, sql_count_mem table⟩
  -- the texts of the others are fixed
  | _ => exact ⟨"_", isIdent_iff.mp (by decide), by simp [sql, sqlTexts]⟩

end Postgres

/-- The check of the settings accepts the same names. -/
theorem Config.notIdentifier_mem_faults_iff (c : Config) :
    ConfigFault.notIdentifier c.accountsTable ∈ c.faults ↔ ¬IsPlainName c.accountsTable := by
  rw [← isIdent_iff, Bool.not_eq_true, faults, List.mem_filterMap]
  simp

-- ---------------------------------------------------------------------------
-- The table of a service
-- ---------------------------------------------------------------------------

variable {σ : Type}

/-- A service has the table that its configuration names. -/
theorem Service.table_of_start {network : Network σ} {env : Environment} {c : Config}
    {v : Service σ} {s s' : σ} (hStart : Service.start network env c s = (.ok v, s')) :
    v.table.name = c.accountsTable := by
  -- the stages in order: the table is opened in the second one and handed on by the others
  obtain ⟨_, _, -, hRest⟩ := Startup.andThen_eq_ok hStart
  obtain ⟨table, _, hPostgres, hLeases⟩ := Startup.andThen_eq_ok hRest
  obtain ⟨_, _, -, hQueue⟩ := Startup.andThen_eq_ok hLeases
  obtain ⟨_, _, -, hOk⟩ := Startup.andThen_eq_ok hQueue
  obtain rfl := Except.ok.inj (Prod.mk.inj hOk).1
  obtain ⟨checked, _, hCheck, hPing⟩ := Startup.andThen_eq_ok hPostgres
  obtain ⟨_, _, -, hSame⟩ := Startup.andThen_eq_ok hPing
  obtain rfl : checked = table := Except.ok.inj (Prod.mk.inj hSame).1
  exact Postgres.name_of_checkTable (Startup.eq_ok_of_mapError (Prod.mk.inj hCheck).1)

/-- A sign of life names no table. -/
theorem Quiet.asks {notices : List Notice} (hQuiet : Quiet notices) (name : String) :
    Asks name notices := by
  rintro endpoint ⟨statement, result⟩ hMem
  have hNot := hQuiet _ hMem
  cases statement with
  | probe => exact Postgres.sql_probe_mem name
  | _ => contradiction

/-- How a launch over a noted network ends: with an error after signs of life at most, or
with a service that has the table of an accepted configuration. -/
theorem noted_launch (network : Network σ) (args : List String) (envFile : Option String)
    (env : Environment) (s : σ) :
    (∃ exit s' notices,
      launch network.noted args envFile env (s, []) = (.error exit, (s', notices)) ∧
        Quiet notices) ∨
    ∃ v database leases queue s' notices,
      launch network.noted args envFile env (s, []) =
        (.ok (Service.noted v database leases queue), (s', notices)) ∧ Quiet notices ∧
      configure args (loadEnvFile envFile env) = .ok v.config ∧
      v.table.name = v.config.accountsTable := by
  cases hConfigure : configure args (loadEnvFile envFile env) with
  | error exit => exact Or.inl ⟨exit, s, [], launch_of_error hConfigure (s, []), quiet_nil⟩
  | ok c =>
    have hNoted := noted_start network (loadEnvFile envFile env) c s []
    generalize hStart : Service.start network (loadEnvFile envFile env) c s = out,
      hStart' : Service.start network.noted (loadEnvFile envFile env) c (s, []) = out' at hNoted
    cases hNoted with
    | failed hNotes hQuiet =>
      exact Or.inl ⟨_, _, _, launch_of_failed hConfigure hStart', hNotes ▸ hQuiet⟩
    | @passed v _ s₁ _ t' hNotes hQuiet hHolds =>
      obtain ⟨rfl, database, leases, queue, rfl, -⟩ := hHolds
      exact Or.inr ⟨v, database, leases, queue, s₁, t', launch_of_started hConfigure hStart',
        hNotes ▸ hQuiet, rfl, Service.table_of_start hStart⟩

/-- A service over a noted network, in this state: its table has an accepted name, and
neither the notices so far nor the statements of its cycles and counts name any other. -/
structure Service.NamesOwnTable (v : Service (σ × List Notice)) (s : σ) (notices : List Notice) :
    Prop where
  accepted : IsPlainName v.config.accountsTable
  before : Asks v.config.accountsTable notices
  cycles : ∀ (delay : Call → σ → Nat × σ) (meanwhile : Nat → σ → σ) (clock : Nat → Timestamp)
    (signals : List Nat) cycles,
    v.runCycles (v.notedRemote delay meanwhile) clock signals (s, notices) = .ok cycles →
      Asks v.config.accountsTable cycles.world.state.2
  counts : ∀ (latency : Nat → Nat) (signals : List Nat) counts,
    v.runCounts latency signals (s, notices) = .ok (some counts) →
      Asks v.config.accountsTable counts.world.2

theorem Service.namesOwnTable_noted {v : Service σ} {notices : List Notice}
    (hName : IsPlainName v.config.accountsTable) (hTable : v.table.name = v.config.accountsTable)
    (hBefore : Asks v.config.accountsTable notices) (database : Postgres.Endpoint)
    (leases queue : Redis.Endpoint) (s : σ) :
    (v.noted database leases queue).NamesOwnTable s notices := by
  have hLasting : Lasting v.table.name (Asks v.config.accountsTable) :=
    hTable ▸ lasting_asks v.table.name
  exact ⟨hName, hBefore, fun _ _ _ _ _ => runCycles_keeps hLasting hBefore,
    fun _ _ _ => runCounts_keeps hLasting hBefore⟩

/-- **An accepted name is one token of a statement, and no other name comes into one.**

* A name is accepted if it is a letter or an underscore and then letters, digits and
  underscores.
* The claims of two accepted names fall into as many tokens. These are the same except at
  two places that do not depend on the names, where each has its name. The counts of two
  accepted names have one such place.
* An accepted name has a table, and any other is refused. The settings are refused for the
  same names, so the table of accepted settings can be opened.
* Every statement there is names an accepted table, if it names one.
* A program that does not come to run names no table at all. One that runs has an accepted
  configuration, and names the table of that configuration only. -/
theorem table_of_statements (network : Network σ) (args : List String) (envFile : Option String)
    (env : Environment) (s : σ) :
    (∀ name, Postgres.isIdent name.toList = true ↔ IsPlainName name) ∧
    (∀ name name', IsPlainName name → IsPlainName name' →
      SameBut [2, 60] name name' (tokens (Statement.claimSql name))
          (tokens (Statement.claimSql name')) ∧
        SameBut [9] name name' (tokens (Statement.countSql name))
          (tokens (Statement.countSql name'))) ∧
    (∀ name, IsPlainName name → ∃ table, checkTable name = .ok table ∧ table.name = name) ∧
    (∀ name, ¬IsPlainName name → checkTable name =
      .error (.invalidConfig ("invalid accounts table name: " ++ Text.quoted name))) ∧
    (∀ c : Config, ConfigFault.notIdentifier c.accountsTable ∈ c.faults ↔
      ¬IsPlainName c.accountsTable) ∧
    (∀ values c, Config.check values = .ok c →
      ∃ table, checkTable c.accountsTable = .ok table ∧ table.name = c.accountsTable) ∧
    (∀ statement : Statement, ∃ name, IsPlainName name ∧ statement.sql ∈ sqlTexts name) ∧
    (∀ exit s' notices,
      launch network.noted args envFile env (s, []) = (.error exit, (s', notices)) →
        ∀ name, Asks name notices) ∧
    (∀ v s' notices, launch network.noted args envFile env (s, []) = (.ok v, (s', notices)) →
      configure args (loadEnvFile envFile env) = .ok v.config ∧ v.NamesOwnTable s' notices) := by
  refine ⟨fun _ => isIdent_iff, fun name name' hName hName' => ?_,
    fun _ => Postgres.checkTable_of_isPlainName, fun _ => Postgres.checkTable_of_not_isPlainName,
    Config.notIdentifier_mem_faults_iff, fun values c hCheck => ?_,
    Postgres.Statement.exists_sql_mem, ?_⟩
  · exact ⟨Postgres.sameBut_claimSql hName hName', Postgres.sameBut_countSql hName hName'⟩
  · have hSound := Config.sound_of_check hCheck
    exact Postgres.checkTable_of_isPlainName (isIdent_iff.mp hSound.accountsTable)
  -- the last two parts are about a program that ends and one that runs
  rcases noted_launch network args envFile env s with
    ⟨exit, s₁, notices, hEnd, hQuiet⟩ |
    ⟨v, database, leases, queue, s₁, notices, hEnd, hQuiet, hConfigure, hTable⟩
  · refine ⟨fun exit' s' notices' hLaunch name => ?_, fun v s' notices' hLaunch => ?_⟩
    · obtain ⟨-, -, rfl⟩ : exit = exit' ∧ s₁ = s' ∧ notices = notices' := by
        simpa [hEnd] using hLaunch
      exact hQuiet.asks name
    · simp [hEnd] at hLaunch
  · refine ⟨fun exit s' notices' hLaunch => ?_, fun w s' notices' hLaunch => ?_⟩
    · simp [hEnd] at hLaunch
    · obtain ⟨rfl, rfl, rfl⟩ :
          v.noted database leases queue = w ∧ s₁ = s' ∧ notices = notices' := by
        simpa [hEnd] using hLaunch
      obtain ⟨values, -, hCheck⟩ := configure_eq_ok hConfigure
      have hName := isIdent_iff.mp (Config.sound_of_check hCheck).accountsTable
      exact ⟨hConfigure,
        Service.namesOwnTable_noted hName hTable (hQuiet.asks _) database leases queue s₁⟩

-- ---------------------------------------------------------------------------
-- The name of an alias, and one that would end the statement
-- ---------------------------------------------------------------------------

/-- Arguments with a table name that would end the statement. -/
def hostileArgs : List String := shortArgs ++ ["--accounts-table", "accounts; --"]

theorem exists_configure_hostileArgs :
    ∃ exit, configure hostileArgs (loadEnvFile none fun _ => none) = .error exit := by
  cases hConfigure : configure hostileArgs (loadEnvFile none fun _ => none) with
  | error exit => exact ⟨exit, rfl⟩
  | ok c =>
    obtain ⟨values, hRead, hCheck⟩ := configure_eq_ok hConfigure
    have hNamed : (readSettings hostileArgs (loadEnvFile none fun _ => none)).toOption.map
        (fun values => (Config.ofValues values).accountsTable) = some "accounts; --" := by
      decide +kernel
    have hSound := Config.sound_of_check hCheck
    obtain rfl := Config.eq_of_check hCheck
    have hTable : (Config.ofValues values).accountsTable = "accounts; --" := by
      simpa [hRead, Except.toOption] using hNamed
    have hIdent := hSound.accountsTable
    rw [hTable] at hIdent
    exact absurd hIdent (by decide)

/-- The name of an alias is accepted, although the claim uses that word itself. A name that
would end the statement is refused, and nothing is asked for. With the default name the
cycles do claim accounts, of this table only. -/
theorem table_of_statements_alias :
    SameBut [2, 60] "a" "due" (tokens (Statement.claimSql "a"))
        (tokens (Statement.claimSql "due")) ∧
      checkTable "accounts; --" = .error (.invalidConfig ("invalid accounts table name: " ++
        Text.quoted "accounts; --")) ∧
      (∃ exit, launch smallNetwork.noted hostileArgs none (fun _ => none) ((), []) =
        (.error exit, ((), [])) ∧ Asks "accounts" []) ∧
      (∃ table, checkTable smallService.config.accountsTable = .ok table ∧
        table.name = "accounts") ∧
      launch smallNetwork.noted shortArgs none (fun _ => none) ((), []) =
        (.ok notedService, ((), smallNotices)) ∧ Asks "accounts" smallNotices ∧
      (∃ cycles, notedCycles smallNotices = .ok cycles ∧
        Asks "accounts" cycles.world.state.2 ∧
        cycles.world.state.2[8]? = some (.asked smallDatabase
          ⟨.claim smallService.table (.of ⟨0⟩ smallService.config.policy), .ok []⟩)) ∧
      ∃ counts, notedService.runCounts (fun _ => 0) [Duration.nanosPerMilli]
        ((), smallNotices) = .ok (some counts) ∧ Asks "accounts" counts.world.2 := by
  obtain ⟨-, hTokens, -, hRefused, -, hGates, -, -, hStarted⟩ :=
    table_of_statements smallNetwork shortArgs none (fun _ => none) ()
  obtain ⟨-, -, -, -, -, -, -, hFailed, -⟩ :=
    table_of_statements smallNetwork hostileArgs none (fun _ => none) ()
  have hPlain : ∀ name, Postgres.isIdent name.toList = true → IsPlainName name := fun _ =>
    isIdent_iff.mp
  obtain ⟨exit, hConfigure⟩ := exists_configure_hostileArgs
  have hHostile : launch smallNetwork.noted hostileArgs none (fun _ => none) ((), []) =
      (.error exit, ((), [])) := launch_of_error hConfigure ((), [])
  obtain ⟨hShort, hNames⟩ := hStarted _ _ _ launch_notedService
  obtain ⟨values, -, hCheck⟩ := configure_eq_ok hShort
  refine ⟨(hTokens _ _ (hPlain _ (by decide)) (hPlain _ (by decide))).1,
    hRefused _ (fun hName => absurd (isIdent_iff.mpr hName) (by decide)),
    ⟨exit, hHostile, hFailed _ _ _ hHostile _⟩, hGates values _ hCheck, launch_notedService,
    hNames.before, ?_, ?_⟩
  · have hClaim : (notedCycles smallNotices).map (fun cycles => cycles.world.state.2[8]?) =
        .ok (some (.asked smallDatabase
          ⟨.claim smallService.table (.of ⟨0⟩ smallService.config.policy), .ok []⟩)) := by cbv
    cases hRun : notedCycles smallNotices with
    | error fault => simp [hRun, Except.map] at hClaim
    | ok cycles =>
      rw [hRun] at hClaim
      exact ⟨cycles, rfl, hNames.cycles _ _ _ _ cycles hRun, Except.ok.inj hClaim⟩
  · have hPeriod : 0 < (Duration.ofSecs 30).toNanos := by decide
    obtain ⟨counts, hRun⟩ := Schedule.CountReports.exists_run_eq_ok
      (notedService.counter fun _ => 0) hPeriod (signalScript [Duration.nanosPerMilli])
      ((), smallNotices)
    have hInterval : notedService.config.countReportInterval = some (.ofSecs 30) := rfl
    have hSome : notedService.runCounts (fun _ => 0) [Duration.nanosPerMilli]
        ((), smallNotices) = .ok (some counts) := by
      rw [Service.runCounts, hInterval]
      exact congrArg (Except.map some) hRun
    exact ⟨counts, hSome, hNames.counts _ _ counts hSome⟩

end DueDispatch

import DueDispatch.Proofs.Service.Notices
import DueDispatch.Proofs.Service.Signals

/-!
# DueDispatch — nothing before every peer has answered

The startup is a row of stages, each of which may end it. Over a noted network every stage
does what it does over the network itself, and its notices are quiet: nothing is asked for
but signs of life. `Startup.Noted` says this of one stage, together with what its success
means, and `Noted.andThen` puts stages together.

A service only exists after the last stage. So whatever it asks for comes behind the
notices of a whole startup, and they tell that every peer has answered, in order.

## Results

* `noted_start` — the startup over a noted network.
* `launch_noted` — the whole program over a noted network: what it asks for if it fails to
  start, and what it has been told before it asks for anything else.
-/

namespace DueDispatch

/-- Nothing is asked for but signs of life. -/
def Quiet (notices : List Notice) : Prop := ∀ n ∈ notices, n.isDispatch = false

theorem quiet_nil : Quiet [] := by simp [Quiet]

theorem Quiet.append {first second : List Notice} (hFirst : Quiet first) (hSecond : Quiet second) :
    Quiet (first ++ second) := List.forall_mem_append.mpr ⟨hFirst, hSecond⟩

/-- What is noted when a Redis server gives a sign of life. -/
def aliveNotices (endpoint : Redis.Endpoint) (reply : Redis.Reply) : List Notice :=
  [.redis endpoint (.connection (.ok ())), .redis endpoint (.command .ping (.ok reply))]

theorem quiet_aliveNotices (endpoint : Redis.Endpoint) (reply : Redis.Reply) :
    Quiet (aliveNotices endpoint reply) := by simp [Quiet, aliveNotices, Notice.isDispatch]

variable {σ α β : Type}

-- ---------------------------------------------------------------------------
-- Stages
-- ---------------------------------------------------------------------------

namespace Startup

/-- A stage over a network and over the noted network, with `t` noted before: both end it
with the same fault, or both pass it. The notices are quiet, and tell of a success what
`P` says. -/
inductive Noted (P : α → β → List Notice → Prop) (t : List Notice) :
    Except StartFault α × σ → Except StartFault β × (σ × List Notice) → Prop
  | failed {fault : StartFault} {s : σ} {seg t' : List Notice} (hNotes : t' = t ++ seg)
      (hQuiet : Quiet seg) : Noted P t (.error fault, s) (.error fault, (s, t'))
  | passed {a : α} {b : β} {s : σ} {seg t' : List Notice} (hNotes : t' = t ++ seg)
      (hQuiet : Quiet seg) (hHolds : P a b seg) : Noted P t (.ok a, s) (.ok b, (s, t'))

variable {t : List Notice} {stage : Stage} {s : σ}

/-- A stage that asks for nothing may fail. -/
theorem Noted.error {P : α → β → List Notice → Prop} (fault : StartFault) (s : σ)
    (t : List Notice) : Noted P t (.error fault, s) (.error fault, (s, t)) :=
  .failed (List.append_nil t).symm quiet_nil

/-- A stage that asks for nothing may be passed. -/
theorem Noted.ok {P : α → β → List Notice → Prop} {a : α} {b : β} (hHolds : P a b []) :
    Noted P t (.ok a, s) (.ok b, (s, t)) :=
  .passed (List.append_nil t).symm quiet_nil hHolds

/-- Stages that are noted are noted when they follow one another. -/
theorem Noted.andThen {α' β' : Type} {P : α → β → List Notice → Prop}
    {Q : α' → β' → List Notice → Prop} {out : Except StartFault α × σ}
    {out' : Except StartFault β × (σ × List Notice)} {next : α → σ → Except StartFault α' × σ}
    {next' : β → σ × List Notice → Except StartFault β' × (σ × List Notice)}
    (hFirst : Noted P t out out')
    (hNext : ∀ a b seg s, P a b seg →
      Noted (fun c d more => Q c d (seg ++ more)) (t ++ seg) (next a s) (next' b (s, t ++ seg))) :
    Noted Q t (Startup.andThen out next) (Startup.andThen out' next') := by
  cases hFirst with
  | failed hNotes hQuiet => exact .failed hNotes hQuiet
  | @passed a b s seg t' hNotes hQuiet hHolds =>
    subst hNotes
    rw [andThen_ok, andThen_ok]
    have hSecond := hNext a b seg s hHolds
    generalize next a s = rest, next' b (s, t ++ seg) = rest' at hSecond
    cases hSecond with
    | failed hNotes' hQuiet' =>
      exact .failed (hNotes'.trans (List.append_assoc ..)) (hQuiet.append hQuiet')
    | passed hNotes' hQuiet' hHolds' =>
      exact .passed (hNotes'.trans (List.append_assoc ..)) (hQuiet.append hQuiet') hHolds'

/-- What does not concern any peer is not noted. -/
theorem noted_check (stage : Stage) (result : Except Error α) (s : σ) (t : List Notice) :
    Noted (fun a b seg => result = .ok a ∧ a = b ∧ seg = []) t (check stage result s)
      (check stage result (s, t)) := by
  cases result with
  | error cause => exact .error ..
  | ok a => exact .ok ⟨rfl, rfl, rfl⟩

/-- A stage whose step is noted is noted, and its fault is named in the same way. -/
theorem noted_reach {step : σ → Except Error α × σ}
    {step' : σ × List Notice → Except Error α × (σ × List Notice)} {seg : List Notice}
    {P : α → α → List Notice → Prop} (stage : Stage)
    (hStep : step' (s, t) = ((step s).1, ((step s).2, t ++ seg))) (hQuiet : Quiet seg)
    (hHolds : ∀ a, (step s).1 = .ok a → P a a seg) :
    Noted P t (reach stage step s) (reach stage step' (s, t)) := by
  unfold reach
  rw [hStep]
  rcases hOut : step s with ⟨cause | a, s'⟩
  · exact .failed rfl hQuiet
  · exact .passed rfl hQuiet (hHolds a (by rw [hOut]))

/-- What is known of a success may be weakened. -/
theorem Noted.mono {P Q : α → β → List Notice → Prop} {out : Except StartFault α × σ}
    {out' : Except StartFault β × (σ × List Notice)} (hNoted : Noted P t out out')
    (hMono : ∀ a b seg, P a b seg → Q a b seg) : Noted Q t out out' := by
  cases hNoted with
  | failed hNotes hQuiet => exact .failed hNotes hQuiet
  | passed hNotes hQuiet hHolds => exact .passed hNotes hQuiet (hMono _ _ _ hHolds)

theorem eq_ok_of_mapError {ε ε' : Type} {result : Except ε α} {f : ε → ε'} {a : α}
    (hOk : result.mapError f = .ok a) : result = .ok a := by
  cases result with
  | error e => contradiction
  | ok a' => exact congrArg _ (Except.ok.inj hOk)

-- ---------------------------------------------------------------------------
-- Single peers
-- ---------------------------------------------------------------------------

/-- A connection is noted, and so that its endpoint is without fault. -/
theorem noted_openConnection (network : Network σ) (endpoint : Postgres.Endpoint) (s : σ)
    (t : List Notice) :
    Noted (fun _ _ seg => endpoint.fault? = none ∧ seg = [.opened endpoint (.ok ())]) t
      (reach .connectPostgres (network.postgresAt endpoint).openConnection s)
      (reach .connectPostgres (network.noted.postgresAt endpoint).openConnection (s, t)) := by
  unfold Network.postgresAt
  cases hFault : endpoint.fault? with
  | some fault => exact .error ..
  | none =>
    have hQuiet : Quiet [.opened endpoint ((network.postgres endpoint).connect s).1] := by
      simp [Quiet, Notice.isDispatch]
    exact noted_reach _ rfl hQuiet fun _ hOk => ⟨rfl, by rw [eq_ok_of_mapError hOk]⟩

theorem noted_pingPostgres (server : Postgres.Server σ) (endpoint : Postgres.Endpoint) (s : σ)
    (t : List Notice) :
    Noted (fun _ _ seg => seg = [.asked endpoint ⟨.probe, .ok ()⟩]) t
      (reach .pingPostgres server.ping s)
      (reach .pingPostgres (server.noted endpoint).ping (s, t)) := by
  have hQuiet : Quiet [.asked endpoint ⟨.probe, (server.ask .probe s).1⟩] := by
    simp [Quiet, Notice.isDispatch]
  exact noted_reach _ rfl hQuiet fun _ hOk => by rw [eq_ok_of_mapError hOk]

/-- A Redis server is asked for a sign of life only if it can be connected to, and its reply
has to be a text. -/
theorem noted_pingRedis (stage : Stage) (server : Redis.Server σ) (endpoint : Redis.Endpoint)
    (s : σ) (t : List Notice) :
    Noted (fun _ _ seg => ∃ reply, reply.checkText = .ok () ∧ seg = aliveNotices endpoint reply)
      t (reach stage server.ping s) (reach stage (server.noted endpoint).ping (s, t)) := by
  rcases hConnect : server.connect s with ⟨cause | ⟨⟩, s'⟩
  · have hStep : (server.noted endpoint).ping (s, t) = ((server.ping s).1, ((server.ping s).2,
        t ++ [.redis endpoint (.connection (.error cause))])) := by
      simp [Redis.Server.ping, Redis.Server.noted, Redis.Server.watched, hConnect]
    refine noted_reach _ hStep (by simp [Quiet, Notice.isDispatch]) ?_
    simp [Redis.Server.ping, hConnect]
  · rcases hAsk : server.ask .ping s' with ⟨line | reply, s''⟩
    · have hStep : (server.noted endpoint).ping (s, t) = ((server.ping s).1, ((server.ping s).2,
          t ++ [.redis endpoint (.connection (.ok ())),
            .redis endpoint (.command .ping (.error line))])) := by
        simp [Redis.Server.ping, Redis.Server.askText, Redis.Server.noted, Redis.Server.watched,
          hConnect, hAsk]
      refine noted_reach _ hStep (by simp [Quiet, Notice.isDispatch]) ?_
      simp [Redis.Server.ping, Redis.Server.askText, hConnect, hAsk, Except.mapError]
    · have hStep : (server.noted endpoint).ping (s, t) = ((server.ping s).1, ((server.ping s).2,
          t ++ aliveNotices endpoint reply)) := by
        simp [Redis.Server.ping, Redis.Server.askText, Redis.Server.noted, Redis.Server.watched,
          hConnect, hAsk, aliveNotices]
      refine noted_reach _ hStep (quiet_aliveNotices endpoint reply) fun _ hOk => ⟨reply, ?_, rfl⟩
      simp only [Redis.Server.ping, Redis.Server.askText, hConnect, hAsk] at hOk
      exact eq_ok_of_mapError hOk

-- ---------------------------------------------------------------------------
-- The parts of the startup
-- ---------------------------------------------------------------------------

/-- The database that is connected to is noted under the endpoint of its URL. -/
theorem noted_openPostgres (network : Network σ) (env : Environment) (url : String) (s : σ)
    (t : List Notice) :
    Noted (fun server server' seg => ∃ endpoint, Postgres.checkUrl env url = .ok endpoint ∧
        server' = server.noted endpoint ∧ seg = [.opened endpoint (.ok ())]) t
      (openPostgres network env url s) (openPostgres network.noted env url (s, t)) := by
  refine (noted_check .connectPostgres (Postgres.checkUrl env url) s t).andThen ?_
  rintro endpoint _ _ s ⟨hUrl, rfl, rfl⟩
  rw [List.append_nil]
  refine (noted_openConnection network endpoint s t).andThen ?_
  rintro _ _ _ s ⟨hFault, rfl⟩
  refine .ok ⟨endpoint, hUrl, ?_, rfl⟩
  simp only [Network.postgresAt, hFault]
  rfl

/-- The check of the database asks for a sign of life and no more. -/
theorem noted_checkPostgres (c : Config) (server : Postgres.Server σ)
    (endpoint : Postgres.Endpoint) (s : σ) (t : List Notice) :
    Noted (fun table table' seg => table = table' ∧ seg = [.asked endpoint ⟨.probe, .ok ()⟩]) t
      (checkPostgres c server s) (checkPostgres c (server.noted endpoint) (s, t)) := by
  refine (noted_check .checkTable (Postgres.checkTable c.accountsTable) s t).andThen ?_
  rintro table _ _ s ⟨-, rfl, rfl⟩
  rw [List.append_nil]
  refine (noted_pingPostgres server endpoint s t).andThen ?_
  rintro _ _ _ s rfl
  exact .ok ⟨rfl, rfl⟩

/-- A Redis server that is found at an endpoint gives a sign of life. -/
theorem noted_redisAt (network : Network σ) (stage : Stage) (endpoint : Redis.Endpoint) (s : σ)
    (t : List Notice) :
    Noted (fun _ _ seg =>
        network.noted.redisAt endpoint = (network.redisAt endpoint).noted endpoint ∧
        ∃ reply, reply.checkText = .ok () ∧ seg = aliveNotices endpoint reply) t
      (reach stage (network.redisAt endpoint).ping s)
      (reach stage (network.noted.redisAt endpoint).ping (s, t)) := by
  unfold Network.redisAt
  cases hFault : endpoint.fault? with
  | some fault => exact .error ..
  | none =>
    exact (noted_pingRedis stage (network.redis endpoint) endpoint s t).mono
      fun _ _ _ hAlive => ⟨rfl, hAlive⟩

/-- The server of the leases is noted with its sign of life. -/
theorem noted_reachLeases (network : Network σ) (c : Config) (s : σ) (t : List Notice) :
    Noted (fun server server' seg => ∃ endpoint reply, Redis.checkUrl c.redisUrl = .ok endpoint ∧
        server' = server.noted endpoint ∧ reply.checkText = .ok () ∧
        seg = aliveNotices endpoint reply) t
      (reachLeases network c s) (reachLeases network.noted c (s, t)) := by
  refine (noted_check .findLeases (Redis.checkUrl c.redisUrl) s t).andThen ?_
  rintro endpoint _ _ s ⟨hUrl, rfl, rfl⟩
  rw [List.append_nil]
  refine (noted_redisAt network .pingLeases endpoint s t).andThen ?_
  rintro _ _ _ s ⟨hServer, reply, hReply, rfl⟩
  exact .ok ⟨endpoint, reply, hUrl, hServer, hReply, List.append_nil _⟩

/-- So is that of the queue, which is the same if the URLs are. -/
theorem noted_reachQueue (network : Network σ) (c : Config) {leases : Redis.Server σ}
    {endpoint : Redis.Endpoint} (hLeases : Redis.checkUrl c.redisUrl = .ok endpoint) (s : σ)
    (t : List Notice) :
    Noted (fun server server' seg => ∃ endpoint' reply,
        Redis.checkUrl c.queueRedisUrl = .ok endpoint' ∧
        (c.queueRedisUrl = c.redisUrl → endpoint' = endpoint ∧ server = leases) ∧
        server' = server.noted endpoint' ∧ reply.checkText = .ok () ∧
        seg = aliveNotices endpoint' reply) t
      (reachQueue network c leases s)
      (reachQueue network.noted c (leases.noted endpoint) (s, t)) := by
  unfold reachQueue
  by_cases hShared : c.queueRedisUrl = c.redisUrl
  · simp only [if_pos hShared, andThen_ok]
    refine (noted_pingRedis .pingQueue leases endpoint s t).andThen ?_
    rintro _ _ _ s ⟨reply, hReply, rfl⟩
    exact .ok ⟨endpoint, reply, hShared ▸ hLeases, fun _ => ⟨rfl, rfl⟩, rfl, hReply,
      List.append_nil _⟩
  · simp only [if_neg hShared]
    cases hUrl : Redis.checkUrl c.queueRedisUrl with
    | error cause => exact .error ..
    | ok endpoint' =>
      show Noted _ t (andThen (reach _ _ s) _) (andThen (reach _ _ (s, t)) _)
      refine (noted_redisAt network .pingQueue endpoint' s t).andThen ?_
      rintro _ _ _ s ⟨hServer, reply, hReply, rfl⟩
      exact .ok ⟨endpoint', reply, rfl, fun hSame => absurd hSame hShared, hServer, hReply,
        List.append_nil _⟩

end Startup

-- ---------------------------------------------------------------------------
-- The whole program
-- ---------------------------------------------------------------------------

/-- These notices tell that the peers of a service have answered: the database was
connected to and gave a sign of life, then the server of the leases did, then that of the
queue, which is the same if the URLs are. -/
structure Service.Reached (v : Service σ) (env : Environment) (database : Postgres.Endpoint)
    (leases queue : Redis.Endpoint) (notices : List Notice) : Prop where
  database_url : Postgres.checkUrl env v.config.databaseUrl = .ok database
  leases_url : Redis.checkUrl v.config.redisUrl = .ok leases
  queue_url : Redis.checkUrl v.config.queueRedisUrl = .ok queue
  shared : v.config.queueRedisUrl = v.config.redisUrl →
    queue = leases ∧ v.peers.queue = v.peers.leases
  alive : ∃ first second, first.checkText = .ok () ∧ second.checkText = .ok () ∧
    notices = [.opened database (.ok ()), .asked database ⟨.probe, .ok ()⟩] ++
      aliveNotices leases first ++ aliveNotices queue second

/-- The startup over a noted network. -/
theorem noted_start (network : Network σ) (env : Environment) (c : Config) (s : σ)
    (t : List Notice) :
    Startup.Noted (fun v v' seg => v.config = c ∧ ∃ database leases queue,
        v' = v.noted database leases queue ∧ v.Reached env database leases queue seg) t
      (Service.start network env c s) (Service.start network.noted env c (s, t)) := by
  unfold Service.start
  refine (Startup.noted_openPostgres network env c.databaseUrl s t).andThen ?_
  rintro postgres _ _ s ⟨database, hDatabase, rfl, rfl⟩
  refine (Startup.noted_checkPostgres c postgres database s _).andThen ?_
  rintro table _ _ s ⟨rfl, rfl⟩
  refine (Startup.noted_reachLeases network c s _).andThen ?_
  rintro leases _ _ s ⟨endpoint, first, hLeases, rfl, hFirst, rfl⟩
  refine (Startup.noted_reachQueue network c hLeases s _).andThen ?_
  rintro queue _ _ s ⟨endpoint', second, hQueue, hShared, rfl, hSecond, rfl⟩
  refine .ok ⟨rfl, database, endpoint, endpoint', rfl, hDatabase, hLeases, hQueue, hShared,
    first, second, hFirst, hSecond, ?_⟩
  simp

/-- Whatever else is asked for comes after all the first notices. -/
def Leading (first all : List Notice) : Prop :=
  ∀ before n after, all = before ++ n :: after → n.isDispatch = true → first <+: before

theorem Quiet.leading {first all : List Notice} (hQuiet : Quiet first) (hFirst : first <+: all) :
    Leading first all := by
  obtain ⟨rest, rfl⟩ := hFirst
  intro before n after hSplit hDispatch
  have hNot : n ∉ first := fun hMem => by simp [hQuiet n hMem] at hDispatch
  obtain ⟨more, rfl, -⟩ := Traffic.exists_before hNot hSplit
  exact List.prefix_append _ _

/-- Only a request for help or for the version ends well before the startup. -/
theorem stop_of_code_eq_zero {args : List String} {env : Environment} {exit : Exit}
    (hConfigure : configure args env = .error exit) (hCode : exit.code = 0) :
    readSettings args env = .error .version ∨
      ∃ long, readSettings args env = .error (.help long) := by
  unfold configure at hConfigure
  split at hConfigure
  · rename_i stop hRead
    obtain rfl := Except.error.inj hConfigure
    cases stop with
    | help long => exact Or.inr ⟨long, hRead⟩
    | version => exact Or.inl hRead
    | fault f => simp [Exit.ofStop] at hCode
  · split at hConfigure
    · obtain rfl := Except.error.inj hConfigure
      simp [Exit.ofFailure] at hCode
    · contradiction

/-- **Nothing is dispatched before every peer has answered**, whatever the servers reply and
whether they can be reached or not.

* As long as no configuration is accepted, nothing passes at all.
* A program that does not come to run asks for nothing but signs of life, and ends with an
  error unless it was asked for help or for its version.
* A service that runs has an accepted configuration, and everything that its cycles and its
  counts ask for comes after the notices that all its peers have answered, in order. -/
theorem launch_noted (network : Network σ) (args : List String) (envFile : Option String)
    (env : Environment) (s : σ) :
    let loaded := loadEnvFile envFile env
    (∀ exit, configure args loaded = .error exit →
      launch network.noted args envFile env (s, []) = (.error exit, (s, []))) ∧
    (∀ exit s', launch network args envFile env s = (.error exit, s') →
      ∃ notices, launch network.noted args envFile env (s, []) = (.error exit, (s', notices)) ∧
        Quiet notices ∧
        (exit.code = 0 → readSettings args loaded = .error .version ∨
          ∃ long, readSettings args loaded = .error (.help long))) ∧
    (∀ v s', launch network args envFile env s = (.ok v, s') →
      ∃ database leases queue notices,
        launch network.noted args envFile env (s, []) =
          (.ok (v.noted database leases queue), (s', notices)) ∧
        configure args loaded = .ok v.config ∧
        v.Reached loaded database leases queue notices ∧ Quiet notices ∧
        ∀ (delay : Call → σ → Nat × σ) (meanwhile : Nat → σ → σ) (latency : Nat → Nat)
          (clock : Nat → Timestamp) (signals : List Nat),
          let noted := v.noted database leases queue
          (∀ cycles, noted.runCycles (noted.notedRemote delay meanwhile) clock signals
              (s', notices) = .ok cycles → Leading notices cycles.world.state.2) ∧
          (∀ counts, noted.runCounts latency signals (s', notices) = .ok (some counts) →
            Leading notices counts.world.2)) := by
  intro loaded
  -- without a configuration nothing is started, and with one the startup is noted
  cases hConfigure : configure args loaded with
  | error exit =>
    refine ⟨fun exit' hSame => ?_, fun exit' s' hLaunch => ?_, fun v s' hLaunch => ?_⟩
    · exact (launch_of_error hConfigure (s, [])).trans (by rw [Except.error.inj hSame])
    · obtain ⟨rfl, rfl⟩ : exit = exit' ∧ s = s' := by
        simpa [launch_of_error hConfigure] using hLaunch
      exact ⟨[], launch_of_error hConfigure (s, []), quiet_nil, stop_of_code_eq_zero hConfigure⟩
    · simp [launch_of_error hConfigure] at hLaunch
  | ok c =>
    have hNoted := noted_start network loaded c s []
    refine ⟨by simp, ?_⟩
    generalize hStart : Service.start network loaded c s = out,
      hStart' : Service.start network.noted loaded c (s, []) = out' at hNoted
    cases hNoted with
    | @failed fault s₁ seg t' hNotes hQuiet =>
      refine ⟨fun exit s' hLaunch => ?_, fun v s' hLaunch => ?_⟩
      · obtain ⟨rfl, rfl⟩ : Exit.ofFailure fault.message = exit ∧ s₁ = s' := by
          simpa [launch_of_failed hConfigure hStart] using hLaunch
        exact ⟨t', launch_of_failed hConfigure hStart', hNotes ▸ hQuiet,
          fun hCode => by simp [Exit.ofFailure] at hCode⟩
      · simp [launch_of_failed hConfigure hStart] at hLaunch
    | @passed v v' s₁ seg t' hNotes hQuiet hHolds =>
      obtain ⟨rfl, database, leases, queue, rfl, hReached⟩ := hHolds
      rw [List.nil_append] at hNotes
      subst hNotes
      refine ⟨fun exit s' hLaunch => ?_, fun w s' hLaunch => ?_⟩
      · simp [launch_of_started hConfigure hStart] at hLaunch
      · obtain ⟨rfl, rfl⟩ : v = w ∧ s₁ = s' := by
          simpa [launch_of_started hConfigure hStart] using hLaunch
        exact ⟨database, leases, queue, t', launch_of_started hConfigure hStart', rfl, hReached,
          hQuiet, fun _ _ _ _ _ => ⟨fun _ hRun => hQuiet.leading (runCycles_noted hRun),
            fun _ hRun => hQuiet.leading (runCounts_noted hRun)⟩⟩


-- ---------------------------------------------------------------------------
-- Peers that answer, and a server that refuses
-- ---------------------------------------------------------------------------

/-- The small network, its Redis server being down. -/
def networkWithoutRedis : Network Unit := ⟨fun _ => emptyPostgres, fun _ => .unreachable "refused"⟩

/-- The small service, noted. -/
def notedService : Service (Unit × List Notice) :=
  smallService.noted smallDatabase smallRedis smallRedis

/-- Its cycles up to a signal after a millisecond, every call being answered at once. -/
def notedCycles (t : List Notice) :
    Except Schedule.Fault
      (Schedule.State (Schedule.Site (Unit × List Notice)) Schedule.Waiting) :=
  notedService.runCycles (notedService.notedRemote (fun _ s => (0, s)) fun _ s => s)
    (fun _ => ⟨0⟩) [Duration.nanosPerMilli] ((), t)

/-- What the small service was told when it was launched. -/
def smallNotices : List Notice :=
  [.opened smallDatabase (.ok ()), .asked smallDatabase ⟨.probe, .ok ()⟩] ++
    aliveNotices smallRedis (.simple "PONG") ++ aliveNotices smallRedis (.simple "PONG")

theorem launch_notedService :
    launch smallNetwork.noted shortArgs none (fun _ => none) ((), []) =
      (.ok notedService, ((), smallNotices)) :=
  launch_of_started configure_shortArgs (start_smallConfig smallNetwork.noted ((), []))

/-- Without the Redis server the program ends with an error and has asked for nothing but
signs of life. With it the first cycle claims accounts, behind six notices. -/
theorem launch_noted_small :
    (∃ exit notices, launch networkWithoutRedis.noted shortArgs none (fun _ => none) ((), []) =
        (.error exit, ((), notices)) ∧ Quiet notices ∧ exit.code = 1) ∧
      launch smallNetwork.noted shortArgs none (fun _ => none) ((), []) =
        (.ok notedService, ((), smallNotices)) ∧
      ∃ cycles, notedCycles smallNotices = .ok cycles ∧
        Leading smallNotices cycles.world.state.2 ∧
        cycles.world.state.2[6]? = some (.sent (.claim ⟨0⟩ smallService.config.policy)) := by
  refine ⟨?_, ?_⟩
  · have hStart := start_smallConfig networkWithoutRedis ()
    obtain ⟨-, hFailed, -⟩ := launch_noted networkWithoutRedis shortArgs none (fun _ => none) ()
    obtain ⟨notices, hNoted, hQuiet, -⟩ := hFailed _ _ (launch_of_failed configure_shortArgs hStart)
    exact ⟨_, notices, hNoted, hQuiet, rfl⟩
  · have hLaunch := launch_notedService
    obtain ⟨-, -, hPassed⟩ := launch_noted smallNetwork shortArgs none (fun _ => none) ()
    obtain ⟨database, leases, queue, notices, hNoted, -, -, -, hLeading⟩ :=
      hPassed _ _ launch_smallService
    obtain ⟨hService, rfl⟩ : notedService = smallService.noted database leases queue ∧
        smallNotices = notices := by
      simpa [hLaunch] using hNoted
    have hSent : (notedCycles smallNotices).map (fun cycles => cycles.world.state.2[6]?) =
        .ok (some (.sent (.claim ⟨0⟩ smallService.config.policy))) := by cbv
    cases hRun : notedCycles smallNotices with
    | error fault => simp [hRun, Except.map] at hSent
    | ok cycles =>
      rw [hRun] at hSent
      refine ⟨hLaunch, cycles, rfl, ?_, Except.ok.inj hSent⟩
      have hCycles := (hLeading (fun _ s => (0, s)) (fun _ s => s) (fun _ => 0) (fun _ => ⟨0⟩)
        [Duration.nanosPerMilli]).1
      rw [← hService] at hCycles
      exact hCycles cycles hRun

end DueDispatch

import FlagHost.CommandLine
import FlagHost.Proofs.Effort
import FlagHost.Proofs.SelfTesting
import FlagHost.Proofs.Stages

/-!
# What a run that tests itself tells

A run that tests its server ends well if the server can be set up and reached and answers in time,
and not else. Main statement: what the flag service replies makes no difference, neither while the
start of the client is waited for nor during the test, but for the time that it can cost the server
to evaluate a flag. So no two flag services that leave the server its time can be told apart by the
code of the program.
-/

namespace FlagHost

namespace CommandLine

/-- What a run that tests its server needs. -/
structure Viable (settings : Settings) (client : ClientSettings) (network : Network) : Prop where
  key : Unicode.isBlank settings.sdkKey = false
  configUrl : network.isAddress client.configUrl = true
  eventUrl : network.isAddress client.eventUrl = true
  bound : ∃ address,
    network.bind { port := settings.port, apiKey := settings.sdkKey, client } = .ok address
  reachable : network.isReachable = true

/-- A server that is started answers each request of the test in the time that the test waits. -/
def Prompt (settings : Settings) (client : ClientSettings) (network : Network) : Prop :=
  ∀ serverSettings started, settings.toServer client = .ok serverSettings →
    start serverSettings network = .ok started →
      ∀ check ∈ SelfTest.checks (localUrl started.server settings) testedFlag,
        network.takes started.server.client check.1 ≤ SelfTest.patience

variable {settings : Settings} {client : ClientSettings} {network : Network}

/-! ## What is needed -/

theorem toServer_eq_ok_iff (serverSettings : ServerSettings) :
    settings.toServer client = .ok serverSettings ↔
      Unicode.isBlank settings.sdkKey = false ∧
        serverSettings = { port := settings.port, apiKey := settings.sdkKey, client } := by
  unfold Settings.toServer
  cases Unicode.isBlank settings.sdkKey <;> simp [eq_comm]

theorem exists_startWith_iff (isAddress : String → Bool) (key : String) (client : ClientSettings) :
    (∃ c, Client.startWith isAddress key client = .ok c) ↔
      Unicode.isBlank key = false ∧ isAddress client.configUrl = true ∧
        isAddress client.eventUrl = true := by
  unfold Client.startWith
  cases Unicode.isBlank key <;> cases isAddress client.configUrl <;>
    cases isAddress client.eventUrl <;> simp

/-- A server that was started listens and has a client, which has got the replies so far. -/
theorem start_eq (serverSettings : ServerSettings) (network : Network) :
    start serverSettings network = do
      let address ← network.bind serverSettings
      let c ← Client.startWith network.isAddress serverSettings.apiKey serverSettings.client
      return ⟨Server.running address (some (c.advance network.replies)),
        (c.advance network.replies).becameReady⟩ := by
  unfold start
  cases network.bind serverSettings with
  | error e => rfl
  | ok address =>
    cases Client.startWith network.isAddress serverSettings.apiKey serverSettings.client <;> rfl

theorem start_eq_ok_iff {serverSettings : ServerSettings} {started : Started} :
    start serverSettings network = .ok started ↔ ∃ address c,
      network.bind serverSettings = .ok address ∧
      Client.startWith network.isAddress serverSettings.apiKey serverSettings.client = .ok c ∧
      started = ⟨Server.running address (some (c.advance network.replies)),
        (c.advance network.replies).becameReady⟩ := by
  rw [start_eq, bind_eq_ok_iff]
  constructor
  · rintro ⟨address, bound, make⟩
    obtain ⟨c, made, same⟩ := bind_eq_ok_iff.1 make
    exact ⟨address, c, bound, made, (Except.ok.inj same).symm⟩
  · rintro ⟨address, c, bound, made, rfl⟩
    exact ⟨address, bound, bind_eq_ok_iff.2 ⟨c, made, rfl⟩⟩

/-- A server can be started and reached just when there is what it needs. -/
theorem viable_iff : Viable settings client network ↔
    (∃ serverSettings started, settings.toServer client = .ok serverSettings ∧
      start serverSettings network = .ok started) ∧ network.isReachable = true := by
  constructor
  · intro h
    obtain ⟨address, bound⟩ := h.bound
    obtain ⟨c, made⟩ := (exists_startWith_iff network.isAddress settings.sdkKey client).2
      ⟨h.key, h.configUrl, h.eventUrl⟩
    exact ⟨⟨_, _, (toServer_eq_ok_iff _).2 ⟨h.key, rfl⟩,
      start_eq_ok_iff.2 ⟨address, c, bound, made, rfl⟩⟩, h.reachable⟩
  · rintro ⟨⟨serverSettings, started, served, up⟩, reachable⟩
    obtain ⟨key, rfl⟩ := (toServer_eq_ok_iff serverSettings).1 served
    obtain ⟨address, c, bound, made, -⟩ := start_eq_ok_iff.1 up
    obtain ⟨-, configUrl, eventUrl⟩ := (exists_startWith_iff _ _ _).1 ⟨c, made⟩
    exact ⟨key, configUrl, eventUrl, ⟨address, bound⟩, reachable⟩

/-! ## Runs -/

theorem isWeb_localUrl (server : Server Client) (settings : Settings) :
    (localUrl server settings).isWeb = true := rfl

theorem small_testedFlag : (SelfTest.checkBody testedFlag).length ≤ 1048576 := by decide +kernel

/-- Whether a test is passed depends on the network and the clock alone. -/
theorem test_running (address : Address) (c : Client) (settings : Settings) (network : Network) :
    let server := Server.running address (some c)
    test server settings network =
      if network.isReachable = true ∧
        ∀ check ∈ SelfTest.checks (localUrl server settings) testedFlag,
          network.takes server.client check.1 ≤ SelfTest.patience
      then .ok () else .error (.network .unanswered) := by
  intro server
  have web := isWeb_localUrl server settings
  unfold test
  cases network.isReachable with
  | true =>
    simp only [if_true, true_and]
    exact SelfTest.against_inTime web small_testedFlag _ c
  | false =>
    simp only [Bool.false_eq_true, if_false, false_and]
    exact SelfTest.against_broken web testedFlag

/-- A server that is stopped, with nothing of it at work any more. -/
structure Down (s : Server Client) : Prop where
  state_eq : s.state = .stopped
  isListening_eq : s.isListening = false
  hasRuntime_eq : s.hasRuntime = false
  isActive_eq : s.isActive = false

/-- Stopping brings a server down, whatever became of its client. -/
theorem down_stop (address : Address) (c : Client) :
    Down (Server.running address (some c)).stop.2 := ⟨rfl, rfl, rfl, rfl⟩

theorem run_of_error {e : Error} (failed : settings.toServer client = .error e) :
    run settings client network = .ended (.error e) none := by
  rw [run, failed]

theorem run_of_not_started {serverSettings : ServerSettings} {e : Error}
    (served : settings.toServer client = .ok serverSettings)
    (failed : start serverSettings network = .error e) :
    run settings client network = .ended (.error e) none := by
  rw [run, served]
  dsimp only
  rw [failed]

theorem run_of_started {serverSettings : ServerSettings} {started : Started}
    (tests : settings.selfTest = true) (served : settings.toServer client = .ok serverSettings)
    (up : start serverSettings network = .ok started) :
    run settings client network =
      .ended (test started.server settings network) (some started.server.stop.2) := by
  rw [run, served]
  dsimp only
  rw [up]
  dsimp only
  rw [if_pos tests]

/-- The requests of the test are those to the server that was started. -/
theorem prompt_iff {serverSettings : ServerSettings} {started : Started}
    (served : settings.toServer client = .ok serverSettings)
    (up : start serverSettings network = .ok started) :
    Prompt settings client network ↔
      ∀ check ∈ SelfTest.checks (localUrl started.server settings) testedFlag,
        network.takes started.server.client check.1 ≤ SelfTest.patience := by
  constructor
  · intro prompt
    exact prompt serverSettings started served up
  · intro prompt serverSettings' started' served' up'
    obtain rfl := Except.ok.inj (served.symm.trans served')
    obtain rfl := Except.ok.inj (up.symm.trans up')
    exact prompt

/-- A run that has what it needs is a matter of time. -/
theorem run_of_viable (tests : settings.selfTest = true) (viable : Viable settings client network) :
    ∃ server, Down server ∧
      ((Prompt settings client network ∧
          run settings client network = .ended (.ok ()) (some server)) ∨
        (¬ Prompt settings client network ∧
          run settings client network = .ended (.error (.network .unanswered)) (some server))) := by
  obtain ⟨⟨serverSettings, started, served, up⟩, reachable⟩ := viable_iff.1 viable
  have ended := run_of_started tests served up
  have prompt_iff := prompt_iff served up
  obtain ⟨address, c, -, -, rfl⟩ := start_eq_ok_iff.1 up
  have tested := test_running address (c.advance network.replies) settings network
  dsimp only at tested
  rw [tested, reachable] at ended
  refine ⟨_, down_stop address (c.advance network.replies), ?_⟩
  by_cases prompt : Prompt settings client network
  · exact .inl ⟨prompt, by rw [ended, if_pos ⟨rfl, prompt_iff.1 prompt⟩]⟩
  · exact .inr ⟨prompt, by rw [ended, if_neg fun h => prompt (prompt_iff.2 h.2)]⟩

/-- A run that has not what it needs fails in one way, whatever the flag service replies. -/
theorem run_of_not_viable (tests : settings.selfTest = true)
    (unviable : ¬ Viable settings client network) :
    ∃ e, ∀ replies, ∃ server,
      run settings client { network with replies } = .ended (.error e) server ∧
        ∀ s, server = some s → Down s := by
  have none_down : ∀ s, none = some s → Down s := fun _ same => nomatch same
  cases served : settings.toServer client with
  | error e => exact ⟨e, fun _ => ⟨none, run_of_error served, none_down⟩⟩
  | ok serverSettings =>
    cases bound : network.bind serverSettings with
    | error e =>
      refine ⟨e, fun replies => ⟨none, run_of_not_started served ?_, none_down⟩⟩
      rw [start_eq, bound]
      rfl
    | ok address =>
      cases made : Client.startWith network.isAddress serverSettings.apiKey
          serverSettings.client with
      | error e =>
        refine ⟨e, fun replies => ⟨none, run_of_not_started served ?_, none_down⟩⟩
        rw [start_eq, bound, ok_bind, made]
        rfl
      | ok c =>
        refine ⟨.network .unanswered, fun replies => ?_⟩
        have up : start serverSettings { network with replies } = .ok _ :=
          start_eq_ok_iff.2 ⟨address, c, bound, made, rfl⟩
        have up' : start serverSettings network = .ok _ :=
          start_eq_ok_iff.2 ⟨address, c, bound, made, rfl⟩
        have unreachable : ¬ network.isReachable = true := fun reachable =>
          unviable (viable_iff.2 ⟨⟨_, _, served, up'⟩, reachable⟩)
        refine ⟨_, ?_, fun s same => Option.some.inj same ▸ down_stop address (c.advance replies)⟩
        rw [run_of_started tests served up, test_running, if_neg fun h => unreachable h.1]

/-- What is known of a run that tests its server, and ends with a result. -/
structure Tested (settings : Settings) (client : ClientSettings) (network : Network)
    (result : Except Error Unit) (server : Option (Server Client)) : Prop where
  ok_iff : result = .ok () ↔ Viable settings client network ∧ Prompt settings client network
  exitCode_eq_zero_iff :
    exitCode result = 0 ↔ Viable settings client network ∧ Prompt settings client network
  /-- If nothing is missing but an answer, the result says so. -/
  wanting : Viable settings client network → ¬ Prompt settings client network →
    result = .error (.network .unanswered)
  /-- There was a server if it could be started, and if there was one, it is stopped. -/
  isSome_server : Viable settings client network → server.isSome
  down : ∀ s, server = some s → Down s
  /-- The flag service may reply anything else while the client is waited for, as long as it does
  not cost the server its time, or as there is nothing to lose. -/
  unaffected : ∀ replies,
    (Viable settings client network → (Prompt settings client network ↔
      Prompt settings client { network with replies })) →
    ∃ server', run settings client { network with replies } = .ended result server'
  /-- The flag service may change the client at any time during the test. -/
  passed : ∀ serverSettings started, start serverSettings network = .ok started →
    ∀ exchanges outcome, SelfTest.Answered Client exchanges →
      (selfTest (localUrl started.server settings) testedFlag).Ends exchanges outcome →
        outcome = .ok ()
  /-- Then, too, an answer that does not come ends the test. -/
  failed : ∀ serverSettings started, start serverSettings network = .ok started →
    ∀ exchanges outcome, SelfTest.Attended Client exchanges →
      (∃ e ∈ exchanges, e.reply = .broken) →
      (selfTest (localUrl started.server settings) testedFlag).Ends exchanges outcome →
        outcome = .error (.network .unanswered)
  /-- Whatever became of the client during the test, the server can be stopped. -/
  stopped : ∀ serverSettings started, start serverSettings network = .ok started →
    ∀ f, (started.server.change f).stop.1 = true ∧ Down (started.server.change f).stop.2

theorem exitCode_eq_zero_iff (result : Except Error Unit) :
    exitCode result = 0 ↔ result = .ok () := by
  cases result <;> simp [exitCode]

theorem Viable.of_replies (h : Viable settings client network) (replies : List Reply) :
    Viable settings client { network with replies } :=
  ⟨h.key, h.configUrl, h.eventUrl, h.bound, h.reachable⟩

/-- Another service makes no difference if it leaves the server its time just when this one does. -/
theorem exists_run_of_replies (tests : settings.selfTest = true) {result : Except Error Unit}
    {server : Option (Server Client)} (ended : run settings client network = .ended result server)
    {replies : List Reply}
    (same : Viable settings client network → (Prompt settings client network ↔
      Prompt settings client { network with replies })) :
    ∃ server', run settings client { network with replies } = .ended result server' := by
  by_cases viable : Viable settings client network
  · obtain ⟨_, -, here⟩ := run_of_viable tests viable
    obtain ⟨other, -, there⟩ := run_of_viable tests (viable.of_replies replies)
    rw [ended, same viable] at here
    refine ⟨some other, ?_⟩
    rcases here with ⟨prompt, here⟩ | ⟨late, here⟩ <;> injection here with here
    · obtain ⟨-, there⟩ := there.resolve_right fun h => h.1 prompt
      rw [here, there]
    · obtain ⟨-, there⟩ := there.resolve_left fun h => late h.1
      rw [here, there]
  · obtain ⟨e, all⟩ := run_of_not_viable tests viable
    obtain ⟨_, here, -⟩ := all network.replies
    obtain ⟨other, there, -⟩ := all replies
    injection ended.symm.trans here with here
    exact ⟨other, here ▸ there⟩

theorem exists_run_eq_ended (tests : settings.selfTest = true) (client : ClientSettings)
    (network : Network) :
    ∃ result server, run settings client network = .ended result server ∧
      (result = .ok () ↔ Viable settings client network ∧ Prompt settings client network) ∧
      (Viable settings client network → ¬ Prompt settings client network →
        result = .error (.network .unanswered)) ∧
      (Viable settings client network → server.isSome) ∧ ∀ s, server = some s → Down s := by
  by_cases viable : Viable settings client network
  · obtain ⟨s, down, ⟨prompt, ended⟩ | ⟨late, ended⟩⟩ := run_of_viable tests viable
    · exact ⟨_, _, ended, by simp [viable, prompt], fun _ late => absurd prompt late,
        fun _ => rfl, fun _ same => Option.some.inj same ▸ down⟩
    · exact ⟨_, _, ended, by simp [late], fun _ _ => rfl, fun _ => rfl,
        fun _ same => Option.some.inj same ▸ down⟩
  · obtain ⟨e, all⟩ := run_of_not_viable tests viable
    obtain ⟨server, ended, down⟩ := all network.replies
    exact ⟨_, server, ended, by simp [viable], fun h => absurd h viable,
      fun h => absurd h viable, down⟩

/-- A test of the server says nothing about the flag service, but whether it leaves the server its
time. -/
theorem tested_of_selfTest (tests : settings.selfTest = true) (client : ClientSettings)
    (network : Network) :
    ∃ result server, run settings client network = .ended result server ∧
      Tested settings client network result server := by
  obtain ⟨result, server, ended, ok_iff, wanting, isSome_server, down⟩ :=
    exists_run_eq_ended tests client network
  refine ⟨result, server, ended, ?_⟩
  constructor
  case ok_iff => exact ok_iff
  case exitCode_eq_zero_iff => exact (exitCode_eq_zero_iff _).trans ok_iff
  case wanting => exact wanting
  case isSome_server => exact isSome_server
  case down => exact down
  case unaffected => exact fun replies => exists_run_of_replies tests ended
  case passed =>
    intro serverSettings started _ exchanges outcome answered ends
    refine ((SelfTest.cases_of_ends (isWeb_localUrl _ _) small_testedFlag answered.attended
      ends).resolve_right ?_).1
    rintro ⟨-, e, mem, broken⟩
    exact answered.ne_broken mem broken
  case failed =>
    rintro serverSettings started _ exchanges outcome attended ⟨e, mem, broken⟩ ends
    refine ((SelfTest.cases_of_ends (isWeb_localUrl _ _) small_testedFlag attended
      ends).resolve_left ?_).1
    rintro ⟨-, answered⟩
    exact answered.ne_broken mem broken
  case stopped =>
    intro serverSettings started up f
    obtain ⟨address, c, -, -, rfl⟩ := start_eq_ok_iff.1 up
    have down := down_stop address (f (c.advance network.replies))
    exact ⟨congrArg not down.isActive_eq, down⟩

/-- A run with a key and with the addresses of a flag service that does not reply. -/
theorem tested_of_selfTest_silent :
    let settings : Settings := { sdkKey := "key" }
    let client : ClientSettings := { configUrl := "http://[::1]", eventUrl := "http://[::1]" }
    let network : Network := { bind := fun s => .ok ⟨s.bindAddress, 4000⟩ }
    ∃ server, run settings client network = .ended (.ok ()) server ∧
      Tested settings client network (.ok ()) server := by
  intro settings client network
  obtain ⟨result, server, ended, tested⟩ :=
    tested_of_selfTest (show settings.selfTest = true from rfl) client network
  have viable : Viable settings client network := by
    refine ⟨?_, ?_, ?_, ⟨_, rfl⟩, rfl⟩ <;> decide +kernel
  have prompt : Prompt settings client network := fun _ _ _ _ _ _ => Nat.zero_le _
  obtain rfl := tested.ok_iff.2 ⟨viable, prompt⟩
  exact ⟨server, ended, tested⟩

/-! ## A run that takes too long -/

/-- The check of a flag is as much effort as the flag. -/
theorem effort_checkRequest (server : Url) {key : String}
    (small : (SelfTest.checkBody key).length ≤ 1048576) (c : Client) :
    (SelfTest.checkRequest server key).effort (some c) =
      c.effort ⟨.boolean, key, CheckRequest.bareTarget ⟨"boolean", key, ⟨"test", "test"⟩⟩⟩ := by
  have asked := (SelfTest.deals_check server small c).eq_handle.1
  have single (question : Question) : ([question].map c.effort).sum = c.effort question :=
    Nat.add_zero _
  exact (congrArg (fun questions => (questions.map c.effort).sum) asked).trans (single _)

theorem effort_of_empty {c : Client} (empty : c.store.snapshot = none) (request : Request) :
    request.effort (some c) = 0 := by
  have nothing : c.effort = fun _ => 0 := by
    funext question
    rw [Client.effort, empty]
  simp [Request.effort, nothing]

def keyed : Settings := { sdkKey := "key" }

def nearby : ClientSettings := { configUrl := "http://[::1]", eventUrl := "http://[::1]" }

/-- A machine that looks at a million flags in a millisecond. -/
def swift (replies : List Reply) : Network where
  bind s := .ok ⟨s.bindAddress, 4000⟩
  replies := replies
  takes client request := request.effort client / 1000000

/-- The client that such a machine comes to have. -/
def supplied (replies : List Reply) : Client :=
  Client.advance ⟨.start { apiKey := "key", baseUrl := "http://[::1]" }⟩ replies

theorem start_swift (replies : List Reply) :
    start { port := 4000, apiKey := "key", client := nearby } (swift replies) =
      .ok ⟨Server.running ⟨"0.0.0.0", 4000⟩ (some (supplied replies)),
        (supplied replies).becameReady⟩ := by
  have made : Client.startWith (swift replies).isAddress "key" nearby =
      .ok ⟨.start { apiKey := "key", baseUrl := "http://[::1]" }⟩ := by
    have read : (Url.parse? "http://[::1]").isSome = true := by decide +kernel
    rw [Client.startWith, if_neg (by decide +kernel)]
    change (if !(Url.parse? "http://[::1]").isSome || !(Url.parse? "http://[::1]").isSome then _
      else _) = _
    rw [read]
    rfl
  exact start_eq_ok_iff.2 ⟨_, _, rfl, made, rfl⟩

theorem prompt_swift_iff (replies : List Reply) :
    Prompt keyed nearby (swift replies) ↔
      ∀ check ∈ SelfTest.checks
          (localUrl (Server.running ⟨"0.0.0.0", 4000⟩ (some (supplied replies))) keyed) testedFlag,
        check.1.effort (some (supplied replies)) / 1000000 ≤ SelfTest.patience := by
  have served : keyed.toServer nearby = .ok { port := 4000, apiKey := "key", client := nearby } :=
    (toServer_eq_ok_iff _).2 ⟨by decide +kernel, rfl⟩
  exact prompt_iff served (start_swift replies)

/-- The keys of twelve flags, of which the first one is tested. -/
def steepKeys : List String :=
  testedFlag :: (List.range 11).map fun n => "flag" ++ toString (n + 2)

/-- A service with twelve flags, of which each requires the next one ten times. -/
def steep : List Reply :=
  [.response {
      status := 200
      body := Utf8.ofText "\x7b\"authToken\":\"a.eyJlbnZpcm9ubWVudCI6ImUifQ\"\x7d" },
    .response {
      status := 200
      body := (Flag.format.list.encode (Evaluator.rungs 10 steepKeys)).toBytes },
    .response { status := 200, body := Utf8.ofText "[]" }]

theorem snapshot_steep :
    (supplied steep).store.snapshot = some (Evaluator.laddered 10 steepKeys) := by
  decide +kernel

theorem pow_le_effort_steep (target : Target) :
    10 ^ 11 ≤ (supplied steep).effort ⟨.boolean, testedFlag, target⟩ := by
  have distinct : steepKeys.Nodup := by decide +kernel
  rw [Client.effort, snapshot_steep]
  exact Evaluator.pow_le_effort distinct (by decide) 10 percentBucket target

theorem not_prompt_of_effort {effort : Nat} (ways : 10 ^ 11 ≤ effort) :
    ¬ effort / 1000000 ≤ SelfTest.patience := by
  unfold SelfTest.patience
  omega

theorem not_prompt_steep : ¬ Prompt keyed nearby (swift steep) := by
  intro prompt
  have soon := (prompt_swift_iff steep).1 prompt _ (SelfTest.mem_checks _ _)
  refine not_prompt_of_effort ?_ soon
  rw [effort_checkRequest _ small_testedFlag]
  exact pow_le_effort_steep _

/-- On one machine a run ends well if the service does not reply, and fails if it lists these flags:
there are a hundred thousand million ways down to the last one. -/
theorem unanswered_of_steep :
    Viable keyed nearby (swift steep) ∧
      (∃ server, run keyed nearby (swift []) = .ended (.ok ()) server) ∧
      ∃ server, run keyed nearby (swift steep) =
        .ended (.error (.network .unanswered)) server := by
  have viable : Viable keyed nearby (swift steep) := by
    refine ⟨?_, ?_, ?_, ⟨_, rfl⟩, rfl⟩ <;> decide +kernel
  have prompt : Prompt keyed nearby (swift []) := by
    refine (prompt_swift_iff []).2 fun check _ => ?_
    rw [effort_of_empty (by decide +kernel)]
    exact Nat.zero_le _
  refine ⟨viable, ?_, ?_⟩
  · obtain ⟨server, -, ⟨-, ended⟩ | ⟨late, -⟩⟩ := run_of_viable rfl (viable.of_replies [])
    · exact ⟨_, ended⟩
    · exact absurd prompt late
  · obtain ⟨server, -, ⟨prompt, -⟩ | ⟨-, ended⟩⟩ := run_of_viable rfl viable
    · exact absurd prompt not_prompt_steep
    · exact ⟨_, ended⟩

end CommandLine

end FlagHost

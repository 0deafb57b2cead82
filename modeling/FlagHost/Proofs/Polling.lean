import FlagHost.Client.Basic
import FlagHost.Proofs.Fetching

/-!
# What a poller publishes

`Runs` says how a poller may go on: it takes its steps, gets any replies, begins to fetch again, and
is told to stop, in any order that its states allow. A run keeps the exchanges of its polls, the
latest poll first. Main statement: between two polls the store holds the configuration of the latest
poll that brought a document of flags and a document of segments, and nothing if there was none.
-/

namespace FlagHost

namespace Connector

/-- The last two requests of the poll brought the flags and the segments of an environment, which
are those of the configuration. -/
def Brings (c : Connector) (poll : List Exchange) (configuration : Configuration) : Prop :=
  ∃ earlier first second session flags segments,
    poll = earlier ++ [⟨first, .response flags⟩, ⟨second, .response segments⟩] ∧
      c.AsksFlags session first ∧ flags.isSuccess = true ∧
      c.AsksSegments session second ∧ segments.isSuccess = true ∧
      Configuration.ofBytes flags.body segments.body = .ok configuration

variable {c c' : Connector} {poll : List Exchange} {configuration : Configuration}

theorem Brings.unique {other : Configuration} (h : c.Brings poll configuration)
    (h' : c.Brings poll other) : configuration = other := by
  obtain ⟨_, _, _, _, _, _, rfl, -, -, -, -, held⟩ := h
  obtain ⟨_, _, _, _, _, _, same, -, -, -, -, held'⟩ := h'
  obtain ⟨-, first, second⟩ := pair_suffix_eq same
  cases first
  cases second
  exact Except.ok.inj (held.symm.trans held')

/-- Connectors for one service ask for the same. -/
theorem brings_congr (same : c'.baseUrl = c.baseUrl) :
    c'.Brings poll configuration ↔ c.Brings poll configuration := by
  have url (path : String) (pairs : List (String × String)) :
      c'.url? path pairs = c.url? path pairs := by
    rw [url?, url?, same]
  simp only [Brings, AsksFlags, AsksSegments, Asks, url]

/-- Both documents of a poll make a configuration. -/
theorem brings_of_carries (before : List Exchange) {session : Session} {first second : Request}
    {reply reply' : Reply} {flags segments : List Json} (asks : c.AsksFlags session first)
    (carries : reply.Carries Configuration.entries flags)
    (asks' : c.AsksSegments session second)
    (carries' : reply'.Carries Configuration.entries segments) :
    c.Brings (before ++ [⟨first, reply⟩, ⟨second, reply'⟩])
      (Configuration.ofEntries flags segments) := by
  obtain ⟨r, rfl, success, read⟩ := carries
  obtain ⟨r', rfl, success', read'⟩ := carries'
  refine ⟨before, first, second, session, r, r', rfl, asks, success, asks', success', ?_⟩
  rw [Configuration.ofBytes, read, read']
  rfl

theorem Brings.carries (h : c.Brings poll configuration) :
    ∃ earlier x y, poll = earlier ++ [x, y] ∧ x.request.method = "GET" ∧
      ∃ segments, y.reply.Carries Configuration.entries segments := by
  obtain ⟨earlier, first, second, session, flags, segments, rfl, ⟨url, -, asks⟩, -, -, success,
    read⟩ := h
  obtain ⟨_, -, read⟩ := bind_eq_ok_iff.1 read
  obtain ⟨entries, read, -⟩ := bind_eq_ok_iff.1 read
  exact ⟨earlier, _, _, rfl, congrArg Request.method asks, entries, segments, rfl, success, read⟩

/-- A poll of requests for a token, with at most one other request behind them, brings nothing. -/
theorem not_brings_of_posts {before : List Exchange}
    (posts : ∀ x ∈ before, x.request.method = "POST") (last : List Exchange)
    (short : last.length ≤ 1) : ¬ c.Brings (before ++ last) configuration := by
  intro brings
  obtain ⟨earlier, x, y, split, get, -⟩ := brings.carries
  have member : x ∈ before := by
    rcases last with _ | ⟨z, _ | ⟨w, rest⟩⟩
    · rw [List.append_nil] at split
      rw [split]
      exact List.mem_append_right earlier List.mem_cons_self
    · rw [List.append_cons earlier x [y]] at split
      rw [(List.append_inj' split rfl).1]
      exact List.mem_append_right earlier (List.mem_singleton_self x)
    · simp at short
  exact Request.not_post_of_get get (posts x member)

theorem not_brings_of_fails {before : List Exchange} {x y : Exchange}
    (fails : ∀ entries, ¬ y.reply.Carries Configuration.entries entries) :
    ¬ c.Brings (before ++ [x, y]) configuration := by
  intro brings
  obtain ⟨earlier, x', y', split, -, entries, carries⟩ := brings.carries
  obtain ⟨-, -, rfl⟩ := pair_suffix_eq split
  exact fails entries carries

/-- The requests of a session end with a configuration exactly if they bring it. -/
theorem Gets.brings_iff {session : Session} {exchanges before : List Exchange}
    {result : Except Error Configuration} (h : Gets c session exchanges result c')
    (posts : ∀ x ∈ before, x.request.method = "POST") (configuration : Configuration) :
    c.Brings (before ++ exchanges) configuration ↔ result = .ok configuration := by
  cases h with
  | unasked =>
    exact iff_of_false (not_brings_of_posts posts _ (Nat.zero_le 1)) fun h => nomatch h
  | flagsFailed =>
    exact iff_of_false (not_brings_of_posts posts _ (Nat.le_refl 1)) fun h => nomatch h
  | halfAsked =>
    exact iff_of_false (not_brings_of_posts posts _ (Nat.le_refl 1)) fun h => nomatch h
  | segmentsFailed _ _ _ fails =>
    exact iff_of_false (not_brings_of_fails fails) fun h => nomatch h
  | whole asks carries asks' carries' =>
    have brings := brings_of_carries before asks carries asks' carries'
    constructor
    · intro brings'
      rw [brings.unique brings']
    · intro same
      rwa [← Except.ok.inj same]

/-- A fetch ends with a configuration exactly if the poll brings it. -/
theorem Fetches.brings_iff {result : Except Error Configuration} (h : Fetches c poll result c')
    (configuration : Configuration) :
    c.Brings poll configuration ↔ result = .ok configuration := by
  have none : ∀ x ∈ ([] : List Exchange), x.request.method = "POST" := List.forall_mem_nil _
  have one {request : Request} {reply : Reply} (asks : c.AsksToken request) :
      ∀ x ∈ [(⟨request, reply⟩ : Exchange)], x.request.method = "POST" :=
    List.forall_mem_singleton.2 asks.method
  cases h with
  | latched => exact iff_of_false (not_brings_of_posts none [] (Nat.zero_le 1)) fun h => nomatch h
  | resumed _ _ gets => exact gets.brings_iff none configuration
  | unasked => exact iff_of_false (not_brings_of_posts none [] (Nat.zero_le 1)) fun h => nomatch h
  | denied _ _ asks =>
    exact iff_of_false (not_brings_of_posts (one asks) [] (Nat.zero_le 1)) fun h => nomatch h
  | failed _ _ asks =>
    exact iff_of_false (not_brings_of_posts (one asks) [] (Nat.zero_le 1)) fun h => nomatch h
  | entered _ _ asks _ gets => exact gets.brings_iff (one asks) configuration

end Connector

/-- The configuration of the latest poll that brought one. The latest poll comes first. -/
inductive Latest (c : Connector) : List (List Exchange) → Option Configuration → Prop where
  | none : Latest c [] none
  | brings {poll : List Exchange} {polls : List (List Exchange)} {configuration : Configuration}
      (brings : c.Brings poll configuration) : Latest c (poll :: polls) (some configuration)
  | keeps {poll : List Exchange} {polls : List (List Exchange)} {snapshot : Option Configuration}
      (fails : ∀ configuration, ¬ c.Brings poll configuration) (latest : Latest c polls snapshot) :
      Latest c (poll :: polls) snapshot

theorem Latest.unique {c : Connector} {polls : List (List Exchange)}
    {snapshot other : Option Configuration} (h : Latest c polls snapshot)
    (h' : Latest c polls other) : snapshot = other := by
  induction h with
  | none =>
    cases h'
    rfl
  | brings brings =>
    cases h' with
    | brings brings' => rw [brings.unique brings']
    | keeps fails => exact absurd brings (fails _)
  | keeps fails _ ih =>
    cases h' with
    | brings brings => exact absurd brings (fails _)
    | keeps _ latest => exact ih latest

/-- A configuration that is the latest one was brought by a poll. -/
theorem Latest.exists_brings {c : Connector} {polls : List (List Exchange)}
    {configuration : Configuration} (h : Latest c polls (some configuration)) :
    ∃ poll ∈ polls, c.Brings poll configuration := by
  generalize same : some configuration = snapshot at h
  induction h with
  | none => cases same
  | brings brings =>
    cases same
    exact ⟨_, List.mem_cons_self, brings⟩
  | keeps _ _ ih =>
    obtain ⟨poll, member, brings⟩ := ih same
    exact ⟨poll, List.mem_cons_of_mem _ member, brings⟩

namespace Polling

/-- The states that the poller of a connector gets to, with the exchanges of its polls. The latest
poll comes first. -/
inductive Runs (c : Connector) : List (List Exchange) → Polling → Prop where
  | start : Runs c [[]] (.start c)
  | step {polls : List (List Exchange)} {p q : Polling} (runs : Runs c polls p)
      (step : p.step? = some q) : Runs c polls q
  | receive {polls : List (List Exchange)} {poll : List Exchange} {p : Polling} {request : Request}
      {next : Reply → Talk (Except Error Configuration × Connector)}
      (runs : Runs c (poll :: polls) p) (asks : p.poller = .fetching (.ask request next))
      (reply : Reply) :
      Runs c ((poll ++ [⟨request, reply⟩]) :: polls)
        { p with poller := .fetching (next reply), answered := p.answered ++ [request] }
  | wake {polls : List (List Exchange)} {p : Polling} {connector : Connector}
      (runs : Runs c polls p) (rests : p.poller = .resting connector) (goes : p.stopping = false) :
      Runs c ([] :: polls) { p with poller := .fetching connector.fetch }
  | stop {polls : List (List Exchange)} {p : Polling} (runs : Runs c polls p) :
      Runs c polls { p with stopping := true }

end Polling

namespace Poller

/-- What is known about the polls and the snapshot where the poller is. -/
def Tracks (c : Connector) (polls : List (List Exchange)) (snapshot : Option Configuration) :
    Poller → Prop
  | .fetching talk =>
    ∃ poll earlier, ∃ connector : Connector, polls = poll :: earlier ∧
      connector.baseUrl = c.baseUrl ∧ connector.fetch.Leads poll talk ∧ Latest c earlier snapshot
  | .publishing configuration connector =>
    ∃ poll earlier, polls = poll :: earlier ∧ connector.baseUrl = c.baseUrl ∧
      c.Brings poll configuration ∧ Latest c earlier snapshot
  | .noting connector => connector.baseUrl = c.baseUrl ∧ Latest c polls snapshot
  | .resting connector => connector.baseUrl = c.baseUrl ∧ Latest c polls snapshot
  | .failing _ => Latest c polls snapshot
  | .ended => Latest c polls snapshot

/-- A poll is going on whose documents are not published. -/
def isBusy : Poller → Bool
  | .fetching _ => true
  | .publishing _ _ => true
  | _ => false

variable {c : Connector} {polls : List (List Exchange)} {snapshot : Option Configuration}
  {poller : Poller}

theorem Tracks.latest (h : poller.Tracks c polls snapshot) (idle : poller.isBusy = false) :
    Latest c polls snapshot := by
  cases poller with
  | fetching => cases idle
  | publishing => cases idle
  | noting => exact h.2
  | failing => exact h
  | resting => exact h.2
  | ended => exact h

theorem Tracks.latest_tail (h : poller.Tracks c polls snapshot) (busy : poller.isBusy = true) :
    ∃ poll earlier, polls = poll :: earlier ∧ Latest c earlier snapshot := by
  cases poller with
  | fetching =>
    obtain ⟨poll, earlier, -, rfl, -, -, latest⟩ := h
    exact ⟨poll, earlier, rfl, latest⟩
  | publishing =>
    obtain ⟨poll, earlier, rfl, -, -, latest⟩ := h
    exact ⟨poll, earlier, rfl, latest⟩
  | noting => cases busy
  | failing => cases busy
  | resting => cases busy
  | ended => cases busy

end Poller

namespace Polling

variable {c : Connector} {polls : List (List Exchange)} {p q : Polling}

/-- A step keeps to what is known. -/
theorem tracks_of_step (h : p.poller.Tracks c polls p.store.snapshot) (step : p.step? = some q) :
    q.poller.Tracks c polls q.store.snapshot := by
  obtain ⟨poller, store, readiness, stopping, answered⟩ := p
  cases poller with
  | fetching talk =>
    cases talk with
    | ask => cases step
    | done result =>
      obtain ⟨result, connector'⟩ := result
      obtain ⟨poll, earlier, connector, rfl, same, leads, latest⟩ := h
      have fetches := Connector.fetches_of_ends leads
      have same' : connector'.baseUrl = c.baseUrl := fetches.baseUrl.trans same
      cases result with
      | ok configuration =>
        cases step
        have brings := (fetches.brings_iff configuration).2 rfl
        exact ⟨poll, earlier, rfl, same', (Connector.brings_congr same).1 brings, latest⟩
      | error e =>
        have fails (configuration : Configuration) : ¬ c.Brings poll configuration := by
          rw [← Connector.brings_congr same, fetches.brings_iff]
          exact fun h => nomatch h
        cases step
        change Poller.Tracks c (poll :: earlier) store.snapshot (if e.isFinal then _ else _)
        split
        · exact .keeps fails latest
        · exact ⟨same', .keeps fails latest⟩
  | publishing configuration connector =>
    obtain ⟨poll, earlier, rfl, same, brings, -⟩ := h
    cases step
    exact ⟨same, .brings brings⟩
  | noting connector =>
    cases step
    exact h
  | failing e =>
    cases step
    exact h
  | resting connector =>
    cases stopping with
    | false => cases step
    | true =>
      cases step
      exact h.2
  | ended => cases step

theorem Runs.tracks (h : Runs c polls p) : p.poller.Tracks c polls p.store.snapshot := by
  induction h with
  | start => exact ⟨[], [], c, rfl, rfl, .here _, .none⟩
  | step _ step ih => exact tracks_of_step ih step
  | receive _ asks reply ih =>
    rw [asks] at ih
    obtain ⟨_, _, connector, same, base, leads, latest⟩ := ih
    cases same
    exact ⟨_, _, connector, rfl, base, leads.snoc reply, latest⟩
  | wake _ rests _ ih =>
    rw [rests] at ih
    exact ⟨[], _, _, rfl, ih.1, .here _, ih.2⟩
  | stop _ ih => exact ih

theorem Runs.steps (h : Runs c polls p) (n : Nat) : Runs c polls (p.steps n) := by
  induction n generalizing p with
  | zero => exact h
  | succ n ih =>
    unfold Polling.steps
    split
    · exact h
    · next q step => exact ih (h.step step)

theorem Runs.settle (h : Runs c polls p) : Runs c polls p.settle := h.steps 4

theorem Runs.exists_wake (h : Runs c polls p) : ∃ polls', Runs c polls' p.wake := by
  unfold Polling.wake
  split
  · next connector rests =>
    split
    · exact ⟨polls, h.settle⟩
    · next goes => exact ⟨[] :: polls, (h.wake rests (eq_false_of_ne_true goes)).settle⟩
  · exact ⟨polls, h.settle⟩

theorem Runs.exists_receive (h : Runs c polls p) (reply : Reply) :
    ∃ polls', Runs c polls' (p.receive reply) := by
  unfold Polling.receive
  split
  · next request next asks =>
    have tracks := h.tracks
    rw [asks] at tracks
    obtain ⟨poll, earlier, _, rfl, -⟩ := tracks
    exact ⟨_, (h.receive asks reply).settle⟩
  · exact ⟨polls, h⟩

/-- What a client does with replies as they come is a run of its poller. -/
theorem Runs.exists_advance (h : Runs c polls p) (replies : List Reply) :
    ∃ polls', Runs c polls' (p.advance replies) := by
  induction replies generalizing polls p with
  | nil => exact h.exists_wake
  | cons reply replies ih =>
    obtain ⟨_, woken⟩ := h.exists_wake
    obtain ⟨_, received⟩ := woken.exists_receive reply
    exact ih received

/-- What the snapshot of a poller with these polls is. -/
structure Consistent (c : Connector) (polls : List (List Exchange)) (p : Polling) : Prop where
  /-- Between two polls the snapshot is what the latest poll brought that brought something. -/
  latest : p.poller.isBusy = false → Latest c polls p.store.snapshot
  /-- Until a poll is published the snapshot is that of the polls before. -/
  latest_tail : p.poller.isBusy = true →
    ∃ poll earlier, polls = poll :: earlier ∧ Latest c earlier p.store.snapshot
  /-- A poll that brings nothing leaves the snapshot as it was. -/
  snapshot_eq : p.poller.isBusy = false → ∀ poll q, Runs c (poll :: polls) q →
    (∀ configuration, ¬ c.Brings poll configuration) → q.store.snapshot = p.store.snapshot
  /-- All values are read from one configuration that one poll brought, if there is one. -/
  value : (∀ kind key target default, p.store.value kind key target default = default) ∨
    ∃ poll ∈ polls, ∃ configuration, c.Brings poll configuration ∧
      p.store.snapshot = some configuration ∧
      ∀ kind key target default, p.store.value kind key target default =
        ((configuration.variation? key target kind).bind fun v => kind.read? v.value).getD default

/-- Whatever the service replies, the store holds what one poll brought as a whole, and that poll is
the latest one that did. -/
theorem consistent_of_runs (runs : Runs c polls p) : Consistent c polls p := by
  have tracks := runs.tracks
  constructor
  case latest => exact tracks.latest
  case latest_tail => exact tracks.latest_tail
  case snapshot_eq =>
    intro idle poll q runs' fails
    have latest := tracks.latest idle
    cases busy : q.poller.isBusy with
    | false =>
      exact (runs'.tracks.latest busy).unique (.keeps fails latest)
    | true =>
      obtain ⟨_, _, same, latest'⟩ := runs'.tracks.latest_tail busy
      cases same
      exact latest'.unique latest
  case value =>
    cases held : p.store.snapshot with
    | none =>
      left
      intro kind key target default
      rw [Store.value, held]
      rfl
    | some configuration =>
      right
      have brought : ∃ poll ∈ polls, c.Brings poll configuration := by
        cases busy : p.poller.isBusy with
        | false =>
          have latest := tracks.latest busy
          rw [held] at latest
          exact latest.exists_brings
        | true =>
          obtain ⟨_, _, rfl, latest⟩ := tracks.latest_tail busy
          rw [held] at latest
          obtain ⟨poll, member, brings⟩ := latest.exists_brings
          exact ⟨poll, List.mem_cons_of_mem _ member, brings⟩
      obtain ⟨poll, member, brings⟩ := brought
      refine ⟨poll, member, configuration, brings, rfl, ?_⟩
      intro kind key target default
      rw [Store.value, held]
      rfl

/-- The poller after a poll with one who answers each request on its own. -/
def polled (p : Polling) (server : Request → Reply) : Polling :=
  match p.poller with
  | .fetching talk =>
    { p with
      poller := .fetching (.done (talk.against server))
      answered := p.answered ++ talk.requests server }.settle
  | _ => p

theorem Runs.fetched {poll : List Exchange}
    {talk : Talk (Except Error Configuration × Connector)} (h : Runs c (poll :: polls) p)
    (fetches : p.poller = .fetching talk) (server : Request → Reply) :
    Runs c ((poll ++ talk.exchanges server) :: polls)
      { p with
        poller := .fetching (.done (talk.against server))
        answered := p.answered ++ talk.requests server } := by
  induction talk generalizing poll p with
  | done result =>
    rw [Talk.exchanges, Talk.requests, Talk.against, List.map_nil, List.append_nil,
      List.append_nil, ← fetches]
    exact h
  | ask request next ih =>
    have more := ih (server request) (h.receive fetches (server request)) rfl
    rw [List.append_assoc, List.append_assoc] at more
    exact more

theorem Runs.polled {poll : List Exchange}
    {talk : Talk (Except Error Configuration × Connector)} (h : Runs c (poll :: polls) p)
    (fetches : p.poller = .fetching talk) (server : Request → Reply) :
    Runs c ((poll ++ talk.exchanges server) :: polls) (p.polled server) := by
  unfold Polling.polled
  rw [fetches]
  exact (h.fetched fetches server).settle

/-- A connector for a service on its own machine. -/
def neighbour : Connector := { apiKey := "key", baseUrl := "http://[::1]" }

/-- A service without flags and segments. -/
def barren (request : Request) : Reply :=
  if request.method = "POST" then
    .response {
      status := 200
      body := Utf8.ofText "\x7b\"authToken\":\"a.eyJlbnZpcm9ubWVudCI6ImUifQ\"\x7d" }
  else .response { status := 200, body := Utf8.ofText "[]" }

/-- A poll that brings an empty configuration. -/
theorem consistent_after_poll :
    ((start neighbour).polled barren).poller.isBusy = false ∧
      ((start neighbour).polled barren).store.snapshot = some {} ∧
      Consistent neighbour [[] ++ neighbour.fetch.exchanges barren]
        ((start neighbour).polled barren) := by
  refine ⟨by decide +kernel, by decide +kernel, ?_⟩
  exact consistent_of_runs (Runs.start.polled rfl barren)

end Polling

end FlagHost

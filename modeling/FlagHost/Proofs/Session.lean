import FlagHost.Proofs.History

/-!
# The session of a connector

A connector is called for configurations again and again, and `Calls` says what exchanges it has had
with the service by then. Main statement: it holds the session that these exchanges tell of, sends
what may be sent after them, and stops for good once its key was denied.
-/

namespace FlagHost

namespace Connector

variable {history : List Exchange} {c c' : Connector} {session : Session}
  {exchanges : List Exchange} {result : Except Error Configuration}

theorem Asks.bears {path : String} {pairs : List (String × String)} {request : Request}
    (h : c.Asks session path pairs request) (reply : Reply) :
    Exchange.Bears ⟨request, reply⟩ session := by
  obtain ⟨url, -, rfl⟩ := h
  exact ⟨rfl, List.mem_cons_self⟩

/-- A request that brings what it asks for leaves the session as it is. -/
theorem Asks.kept {α : Type} {path : String} {pairs : List (String × String)} {request : Request}
    {reply : Reply} {format : Json.Format α} {a : α} (h : c.Asks session path pairs request)
    (carries : reply.Carries format a) (kept : Kept history (some session) false) :
    Kept (history ++ [⟨request, reply⟩]) (some session) false := by
  have next := kept.bore (h.bears reply)
  rwa [if_neg carries.not_forbids] at next

theorem AsksToken.grants {request : Request} {reply : Reply} (h : c.AsksToken request)
    (grants : reply.Grants session) : Exchange.Grants ⟨request, reply⟩ session :=
  ⟨h.method, grants⟩

/-- The request is for the flags, or it is for the segments and the flags have just come. -/
def Follows (c : Connector) (session : Session) (before : List Exchange) (x : Exchange) : Prop :=
  c.AsksFlags session x.request ∨
    c.AsksSegments session x.request ∧ ∃ earlier y flags, before = earlier ++ [y] ∧
      c.AsksFlags session y.request ∧ y.reply.Carries Configuration.entries flags

theorem Follows.cons {before : List Exchange} {x : Exchange} (h : c.Follows session before x)
    (z : Exchange) : c.Follows session (z :: before) x := by
  rcases h with asks | ⟨asks, earlier, y, flags, rfl, asks', carries⟩
  · exact .inl asks
  · exact .inr ⟨asks, z :: earlier, y, flags, rfl, asks', carries⟩

theorem Gets.rejected (h : Gets c session exchanges result c') : c'.rejected = c.rejected := by
  cases h with
  | unasked => rfl
  | flagsFailed => exact heard_rejected c _
  | halfAsked => rfl
  | segmentsFailed => exact heard_rejected c _
  | whole => rfl

theorem Gets.ne_unauthorized (h : Gets c session exchanges result c') :
    result ≠ .error .unauthorized := by
  rintro rfl
  cases h with
  | unasked other => exact other rfl
  | flagsFailed _ _ other => exact other rfl
  | halfAsked _ _ other => exact other rfl
  | segmentsFailed _ _ _ _ other => exact other rfl

/-- The requests of a session come in their order, while the session is held. -/
theorem Gets.sends (h : Gets c session exchanges result c')
    (kept : Kept history (some session) false) {before after : List Exchange} {x : Exchange}
    (split : exchanges = before ++ x :: after) :
    Held (history ++ before) session ∧ c.Follows session before x := by
  have one {y : Exchange} (asks : c.AsksFlags session y.request)
      (split : [y] = before ++ x :: after) :
      Held (history ++ before) session ∧ c.Follows session before x := by
    obtain ⟨rfl, rfl⟩ := singleton_eq_split split
    rw [List.append_nil]
    exact ⟨(kept.held_iff session).1 rfl, .inl asks⟩
  have two {first second : Request} {reply reply' : Reply} {flags : List Json}
      (asks : c.AsksFlags session first) (carries : reply.Carries Configuration.entries flags)
      (asks' : c.AsksSegments session second)
      (split : [⟨first, reply⟩, ⟨second, reply'⟩] = before ++ x :: after) :
      Held (history ++ before) session ∧ c.Follows session before x := by
    rcases pair_eq_split split with ⟨rfl, rfl⟩ | ⟨rfl, rfl⟩
    · rw [List.append_nil]
      exact ⟨(kept.held_iff session).1 rfl, .inl asks⟩
    · exact ⟨((asks.kept carries kept).held_iff session).1 rfl,
        .inr ⟨asks', [], _, flags, rfl, asks, carries⟩⟩
  cases h with
  | unasked => exact absurd split (nil_ne_split before x after)
  | flagsFailed asks => exact one asks split
  | halfAsked asks => exact one asks split
  | segmentsFailed asks carries asks' => exact two asks carries asks' split
  | whole asks carries asks' => exact two asks carries asks' split

theorem Gets.kept (h : Gets c session exchanges result c') (held : c.session = some session)
    (kept : Kept history (some session) false) : Kept (history ++ exchanges) c'.session false := by
  cases h with
  | unasked =>
    rw [List.append_nil, held]
    exact kept
  | flagsFailed asks =>
    rw [heard_session, held]
    exact kept.bore (asks.bears _)
  | halfAsked asks carries =>
    rw [held]
    exact asks.kept carries kept
  | segmentsFailed asks carries asks' =>
    rw [heard_session, held, List.append_cons]
    exact (asks.kept carries kept).bore (asks'.bears _)
  | whole asks carries asks' carries' =>
    rw [held, List.append_cons]
    exact asks'.kept carries' (asks.kept carries kept)

theorem Gets.method (h : Gets c session exchanges result c') :
    ∀ x ∈ exchanges, x.request.method = "GET" := by
  have get {path : String} {pairs : List (String × String)} {request : Request}
      (asks : c.Asks session path pairs request) : request.method = "GET" :=
    (asks.bears .broken).1
  cases h with
  | unasked => exact List.forall_mem_nil _
  | flagsFailed asks => exact List.forall_mem_singleton.2 (get asks)
  | halfAsked asks => exact List.forall_mem_singleton.2 (get asks)
  | segmentsFailed asks _ asks' =>
    exact List.forall_mem_cons.2 ⟨get asks, List.forall_mem_singleton.2 (get asks')⟩
  | whole asks _ asks' =>
    exact List.forall_mem_cons.2 ⟨get asks, List.forall_mem_singleton.2 (get asks')⟩

/-- A fetch keeps to what the exchanges tell. -/
theorem Fetches.kept (h : Fetches c exchanges result c')
    (kept : Kept history c.session c.rejected) :
    Kept (history ++ exchanges) c'.session c'.rejected := by
  cases h with
  | latched =>
    rw [List.append_nil]
    exact kept
  | resumed accepted held gets =>
    rw [accepted, held] at kept
    rw [gets.rejected, accepted]
    exact gets.kept held kept
  | unasked =>
    rw [List.append_nil]
    exact kept
  | denied accepted free asks denies =>
    rw [accepted, free] at kept
    change Kept _ c.session true
    rw [free]
    exact kept.ungranted asks.method (fun s grants => grants.2.1.not_denies denies)
      ⟨fun _ => ⟨asks.method, denies⟩, fun _ => rfl⟩
  | failed accepted free asks tolerates fails =>
    rw [accepted, free] at kept
    rw [accepted, free]
    exact kept.ungranted asks.method (fun s grants => fails s grants.2)
      ⟨fun h => (nomatch h), fun denies => absurd denies.2 tolerates⟩
  | entered accepted free asks grants gets =>
    rw [accepted, free] at kept
    rw [gets.rejected, List.append_cons]
    change Kept _ _ c.rejected
    rw [accepted]
    exact gets.kept rfl (kept.granted (asks.grants grants))

theorem Fetches.unauthorized_iff (h : Fetches c exchanges result c') :
    result = .error .unauthorized ↔ c'.rejected = true := by
  cases h with
  | latched rejected => exact ⟨fun _ => rejected, fun _ => rfl⟩
  | resumed accepted held gets =>
    rw [gets.rejected, accepted]
    exact ⟨fun h => absurd h gets.ne_unauthorized, fun h => (nomatch h)⟩
  | unasked accepted _ _ other =>
    rw [accepted]
    exact ⟨fun h => absurd (Except.error.inj h) other, fun h => (nomatch h)⟩
  | denied => exact ⟨fun _ => rfl, fun _ => rfl⟩
  | failed accepted _ _ _ _ other =>
    rw [accepted]
    exact ⟨fun h => absurd (Except.error.inj h) other, fun h => (nomatch h)⟩
  | entered accepted _ _ _ gets =>
    rw [gets.rejected]
    refine ⟨fun h => absurd h gets.ne_unauthorized, fun rejected => ?_⟩
    exact absurd (accepted.symm.trans rejected) (by decide)

/-- A token is asked for exactly if there is neither a denial nor a session. -/
theorem Fetches.exists_post_iff (h : Fetches c exchanges result c') :
    (∃ x ∈ exchanges, x.request.method = "POST") ↔
      c.rejected = false ∧ c.session = none ∧ ∃ url, c.TokenAddress url := by
  have posts {request : Request} {reply : Reply} {more : List Exchange}
      (accepted : c.rejected = false) (free : c.session = none) (asks : c.AsksToken request) :
      (∃ x ∈ (⟨request, reply⟩ : Exchange) :: more, x.request.method = "POST") ↔
        c.rejected = false ∧ c.session = none ∧ ∃ url, c.TokenAddress url := by
    obtain ⟨url, address, -⟩ := id asks
    exact ⟨fun _ => ⟨accepted, free, url, address⟩,
      fun _ => ⟨_, List.mem_cons_self, asks.method⟩⟩
  cases h with
  | latched rejected =>
    refine ⟨fun ⟨_, member, _⟩ => (nomatch member), fun ⟨accepted, _⟩ => ?_⟩
    exact absurd (rejected.symm.trans accepted) (by decide)
  | resumed accepted held gets =>
    constructor
    · rintro ⟨x, member, post⟩
      exact absurd post (Request.not_post_of_get (gets.method x member))
    · rintro ⟨-, free, -⟩
      exact nomatch held.symm.trans free
  | unasked accepted free homeless =>
    refine ⟨fun ⟨_, member, _⟩ => (nomatch member), fun ⟨_, _, url, address⟩ => ?_⟩
    exact absurd address (homeless url)
  | denied accepted free asks => exact posts accepted free asks
  | failed accepted free asks => exact posts accepted free asks
  | entered accepted free asks => exact posts accepted free asks

/-- What a fetch may send, and when. -/
theorem Fetches.sends (h : Fetches c exchanges result c')
    (kept : Kept history c.session c.rejected) {before after : List Exchange} {x : Exchange}
    (split : exchanges = before ++ x :: after) :
    before = [] ∧ c.AsksToken x.request ∨
      ∃ session, Held (history ++ before) session ∧ c.Follows session before x := by
  cases h with
  | latched => exact absurd split (nil_ne_split before x after)
  | resumed accepted held gets =>
    rw [accepted, held] at kept
    exact .inr ⟨_, gets.sends kept split⟩
  | unasked => exact absurd split (nil_ne_split before x after)
  | denied _ _ asks =>
    obtain ⟨rfl, rfl⟩ := singleton_eq_split split
    exact .inl ⟨rfl, asks⟩
  | failed _ _ asks =>
    obtain ⟨rfl, rfl⟩ := singleton_eq_split split
    exact .inl ⟨rfl, asks⟩
  | entered accepted free asks grants gets =>
    rw [accepted, free] at kept
    cases before with
    | nil =>
      cases split
      exact .inl ⟨rfl, asks⟩
    | cons z before =>
      cases split
      obtain ⟨held, follows⟩ := gets.sends (kept.granted (asks.grants grants)) rfl
      rw [List.append_assoc] at held
      exact .inr ⟨_, held, follows.cons _⟩

theorem fetch_of_rejected (h : c.rejected = true) : c.fetch = pure (.error .unauthorized, c) :=
  if_pos h

/-- The connectors with the key and the service, and the exchanges that they have had in the calls
so far. -/
inductive Calls (apiKey baseUrl : String) : List Exchange → Connector → Prop where
  | new : Calls apiKey baseUrl [] { apiKey, baseUrl }
  | call {history exchanges : List Exchange} {c c' : Connector}
      {result : Except Error Configuration} (calls : Calls apiKey baseUrl history c)
      (fetch : c.fetch.Ends exchanges (result, c')) :
      Calls apiKey baseUrl (history ++ exchanges) c'

theorem Calls.kept {apiKey baseUrl : String} (h : Calls apiKey baseUrl history c) :
    Kept history c.session c.rejected := by
  induction h with
  | new => exact .nil
  | call _ fetch ih => exact (fetches_of_ends fetch).kept ih

/-- How a connector that has had the exchanges of the history goes through one more call. -/
structure Disciplined (history : List Exchange) (c : Connector) (exchanges : List Exchange)
    (result : Except Error Configuration) (c' : Connector) : Prop where
  /-- A token is asked for exactly if there is neither a denial nor a session. -/
  exists_post_iff : (∃ x ∈ exchanges, x.request.method = "POST") ↔
    c.rejected = false ∧ c.session = none ∧ ∃ url, c.TokenAddress url
  /-- A token is asked for first and once. Flags are asked for with the session that is held, and
  segments with the same session when the flags have come. -/
  sends : ∀ before x after, exchanges = before ++ x :: after →
    before = [] ∧ c.AsksToken x.request ∨
      ∃ session, Held (history ++ before) session ∧ c.Follows session before x
  /-- All other requests carry the token of the session that is held. -/
  exists_bears : ∀ before x after, history ++ exchanges = before ++ x :: after →
    x.request.method = "GET" → ∃ session, Held before session ∧ x.Bears session
  session_eq_some_iff : ∀ session, c'.session = some session ↔ Held (history ++ exchanges) session
  claims : ∀ before after session, history ++ exchanges = before ++ after → Held before session →
    Claims.ofToken (Utf8.ofText session.token) = .ok session.claims ∧
      session.claims.environment ≠ ""
  /-- A session is lost by an answer with 403, and by nothing else. -/
  held_snoc_iff : ∀ before x after session, history ++ exchanges = before ++ x :: after →
    Held before session → (Held (before ++ [x]) session ↔ ¬ x.Expires)
  /-- After that, no token is carried before one was granted again. -/
  exists_grants : ∀ before x middle y after,
    history ++ exchanges = before ++ x :: middle ++ y :: after → x.Expires →
      y.request.method = "GET" → ∃ z ∈ middle, ∃ session, z.Grants session
  /-- Nothing is sent after the key was denied. -/
  eq_nil_of_denies : ∀ before x after, history ++ exchanges = before ++ x :: after →
    x.Denies → after = []
  unauthorized_iff : result = .error .unauthorized ↔ ∃ x ∈ history ++ exchanges, x.Denies
  fetch_of_denies : (∃ x ∈ history ++ exchanges, x.Denies) →
    c'.fetch = pure (.error .unauthorized, c')

/-- Whatever the service replied to the calls before and replies to this one, the connector keeps to
its discipline. -/
theorem disciplined_of_calls {apiKey baseUrl : String} (calls : Calls apiKey baseUrl history c)
    (fetch : c.fetch.Ends exchanges (result, c')) :
    Disciplined history c exchanges result c' := by
  have fetches := fetches_of_ends fetch
  have kept := fetches.kept calls.kept
  constructor
  case exists_post_iff => exact fetches.exists_post_iff
  case sends =>
    intro before x after split
    exact fetches.sends calls.kept split
  case exists_bears =>
    intro before x after split get
    exact (split ▸ kept.lawful).exists_bears get
  case session_eq_some_iff => exact kept.held_iff
  case claims =>
    intro before after session _ held
    exact ⟨held.claims, Claims.environment_ne_empty held.claims⟩
  case held_snoc_iff =>
    intro before x after session split held
    exact (split ▸ kept.lawful).held_snoc_iff_not_expires held
  case exists_grants =>
    intro before x middle y after split expires get
    exact (split ▸ kept.lawful).exists_grants expires get
  case eq_nil_of_denies =>
    intro before x after split denies
    exact (split ▸ kept.lawful).eq_nil_of_denies denies
  case unauthorized_iff => exact fetches.unauthorized_iff.trans kept.rejected_iff
  case fetch_of_denies => exact fun denied => fetch_of_rejected (kept.rejected_iff.2 denied)

theorem fetch_ends_against (c : Connector) (server : Request → Reply) :
    c.fetch.Ends (c.fetch.exchanges server)
      ((c.fetch.against server).1, (c.fetch.against server).2) :=
  Talk.ends_against server c.fetch

/-- Whoever answers, the calls go on. -/
theorem Calls.against {apiKey baseUrl : String} (h : Calls apiKey baseUrl history c)
    (server : Request → Reply) :
    Calls apiKey baseUrl (history ++ c.fetch.exchanges server) (c.fetch.against server).2 :=
  h.call (fetch_ends_against c server)

/-- A connector that has not been called. -/
def newcomer : Connector := { apiKey := "key", baseUrl := "http://[::1]" }

/-- A service that grants tokens but does not accept them. -/
def fickle (request : Request) : Reply :=
  if request.method = "POST" then
    .response {
      status := 200
      body := Utf8.ofText "\x7b\"authToken\":\"a.eyJlbnZpcm9ubWVudCI6ImUifQ\"\x7d" }
  else .response { status := 403 }

/-- A service that denies every key. -/
def harsh (_ : Request) : Reply := .response { status := 401 }

/-- A token is granted and expires at once, and in the next call the key is denied. -/
theorem disciplined_after_expiry :
    let c := (newcomer.fetch.against fickle).2
    (newcomer.fetch.exchanges fickle).length = 2 ∧ (c.fetch.exchanges harsh).length = 1 ∧
      Disciplined ([] ++ newcomer.fetch.exchanges fickle) c (c.fetch.exchanges harsh)
        (c.fetch.against harsh).1 (c.fetch.against harsh).2 := by
  refine ⟨by decide +kernel, by decide +kernel, ?_⟩
  have calls : Calls "key" "http://[::1]" [] newcomer := .new
  exact disciplined_of_calls (calls.against fickle) (fetch_ends_against _ harsh)

end Connector

end FlagHost

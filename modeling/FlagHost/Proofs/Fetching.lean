import FlagHost.Connector
import FlagHost.Proofs.Exchange
import FlagHost.Proofs.Outcome

/-!
# How fetches go

What a connector sends for one configuration, and what it makes of the replies. `Gets` says how the
requests for flags and segments go with the token of a session, and `Fetches` how a whole fetch
goes, which may have to ask for a token first. Main statement: every fetch goes in one of these
ways, whatever the service replies.
-/

namespace FlagHost

open Json (Format)

theorem Request.not_post_of_get {request : Request} (get : request.method = "GET") :
    request.method ≠ "POST" := by
  rw [get]
  decide

theorem Response.isSuccess_iff (r : Response) :
    r.isSuccess = true ↔ 200 ≤ r.status ∧ r.status < 300 := by
  rw [Response.isSuccess, Bool.and_eq_true, decide_eq_true_iff, decide_eq_true_iff]

namespace Reply

/-- The reply is a success, and its body holds the value. -/
def Carries {α : Type} (format : Format α) (reply : Reply) (a : α) : Prop :=
  ∃ r, reply = .response r ∧ r.isSuccess = true ∧ format.ofBytes r.body = .ok a

/-- The reply grants a token, whose claims can be read. -/
def Grants (reply : Reply) (session : Session) : Prop :=
  reply.Carries Connector.tokenFormat session.token ∧
    Claims.ofToken (Utf8.ofText session.token) = .ok session.claims

/-- The reply tells that the key is not valid. -/
def Denies (reply : Reply) : Prop := reply.status? = some 401 ∨ reply.status? = some 403

/-- The reply tells that the token is not accepted. -/
def Forbids (reply : Reply) : Prop := reply.status? = some 403

instance (reply : Reply) : Decidable reply.Forbids := inferInstanceAs (Decidable (_ = _))

theorem Carries.status {α : Type} {format : Format α} {reply : Reply} {a : α}
    (h : reply.Carries format a) :
    ∃ status, reply.status? = some status ∧ 200 ≤ status ∧ status < 300 := by
  obtain ⟨r, rfl, success, -⟩ := h
  exact ⟨r.status, rfl, r.isSuccess_iff.1 success⟩

theorem denies_response_iff (r : Response) :
    (Reply.response r).Denies ↔ r.status = 401 ∨ r.status = 403 := by
  rw [Reply.Denies, Reply.status?, Option.some_inj, Option.some_inj]

theorem Carries.not_denies {α : Type} {format : Format α} {reply : Reply} {a : α}
    (h : reply.Carries format a) : ¬ reply.Denies := by
  obtain ⟨status, eq, -, below⟩ := h.status
  rw [Denies, eq, Option.some_inj, Option.some_inj]
  omega

theorem Carries.not_forbids {α : Type} {format : Format α} {reply : Reply} {a : α}
    (h : reply.Carries format a) : ¬ reply.Forbids :=
  fun forbids => h.not_denies (.inr forbids)

theorem Carries.unique {α : Type} {format : Format α} {reply : Reply} {a b : α}
    (h : reply.Carries format a) (h' : reply.Carries format b) : a = b := by
  obtain ⟨r, rfl, -, held⟩ := h
  obtain ⟨r', same, -, held'⟩ := h'
  cases same
  exact Except.ok.inj (held.symm.trans held')

theorem Grants.unique {reply : Reply} {s s' : Session} (h : reply.Grants s)
    (h' : reply.Grants s') : s = s' := by
  obtain ⟨token, claims⟩ := s
  obtain ⟨token', claims'⟩ := s'
  obtain rfl : token = token' := h.1.unique h'.1
  obtain rfl : claims = claims' := Except.ok.inj (h.2.symm.trans h'.2)
  rfl

end Reply

/-- The claims of a token name an environment. -/
theorem Claims.environment_ne_empty {token : Bytes} {claims : Claims}
    (h : Claims.ofToken token = .ok claims) : claims.environment ≠ "" := by
  obtain ⟨payload, -, h⟩ := bind_eq_ok_iff.1 h
  obtain ⟨bytes, -, h⟩ := bind_eq_ok_iff.1 h
  obtain ⟨read, -, h⟩ := bind_eq_ok_iff.1 h
  split at h
  · cases h
  · next full =>
    obtain rfl := Except.ok.inj h
    rwa [String.isEmpty_iff] at full

namespace Connector

/-- The address that tokens are asked for at, if requests can be sent there. -/
def TokenAddress (c : Connector) (url : Url) : Prop :=
  c.url? "/client/auth" [] = some url ∧ url.isWeb = true

/-- The request asks for a token with the key. -/
def AsksToken (c : Connector) (request : Request) : Prop :=
  ∃ url, c.TokenAddress url ∧ request = c.authenticationRequest url

theorem AsksToken.method {c : Connector} {request : Request} (h : c.AsksToken request) :
    request.method = "POST" := by
  obtain ⟨url, -, rfl⟩ := h
  rfl

/-- The request asks with the token of a session for what is at a path. -/
def Asks (c : Connector) (session : Session) (path : String) (pairs : List (String × String))
    (request : Request) : Prop :=
  ∃ url, c.url? path (pairs ++ (session.claims.cluster.map ("cluster", ·)).toList) = some url ∧
    request = getRequest session url

/-- The request asks for the flags of the environment of a session. -/
def AsksFlags (c : Connector) (session : Session) : Request → Prop :=
  c.Asks session ("/client/env/" ++ session.claims.environment ++ "/feature-configs") []

/-- The request asks for the segments of the environment of a session. -/
def AsksSegments (c : Connector) (session : Session) : Request → Prop :=
  c.Asks session ("/client/env/" ++ session.claims.environment ++ "/target-segments")
    [("rules", "v2")]

/-- The connector once a reply to a request with its token is there. -/
def heard (c : Connector) (reply : Reply) : Connector :=
  if reply.Forbids then { c with session := none } else c

/-- How the requests for the flags and the segments go with the token of a session. Errors of this
part never say that the key is not valid. -/
inductive Gets (c : Connector) (session : Session) :
    List Exchange → Except Error Configuration → Connector → Prop where
  | unasked {e : Error} (other : e ≠ .unauthorized) : Gets c session [] (.error e) c
  | flagsFailed {request : Request} {reply : Reply} {e : Error}
      (asks : c.AsksFlags session request)
      (fails : ∀ entries, ¬ reply.Carries Configuration.entries entries)
      (other : e ≠ .unauthorized) :
      Gets c session [⟨request, reply⟩] (.error e) (c.heard reply)
  | halfAsked {request : Request} {reply : Reply} {flags : List Json} {e : Error}
      (asks : c.AsksFlags session request) (carries : reply.Carries Configuration.entries flags)
      (other : e ≠ .unauthorized) :
      Gets c session [⟨request, reply⟩] (.error e) c
  | segmentsFailed {first second : Request} {reply reply' : Reply} {flags : List Json} {e : Error}
      (asks : c.AsksFlags session first) (carries : reply.Carries Configuration.entries flags)
      (asks' : c.AsksSegments session second)
      (fails : ∀ entries, ¬ reply'.Carries Configuration.entries entries)
      (other : e ≠ .unauthorized) :
      Gets c session [⟨first, reply⟩, ⟨second, reply'⟩] (.error e) (c.heard reply')
  | whole {first second : Request} {reply reply' : Reply} {flags segments : List Json}
      (asks : c.AsksFlags session first) (carries : reply.Carries Configuration.entries flags)
      (asks' : c.AsksSegments session second)
      (carries' : reply'.Carries Configuration.entries segments) :
      Gets c session [⟨first, reply⟩, ⟨second, reply'⟩]
        (.ok (Configuration.ofEntries flags segments)) c

/-- How a fetch goes. -/
inductive Fetches (c : Connector) :
    List Exchange → Except Error Configuration → Connector → Prop where
  | latched (rejected : c.rejected = true) : Fetches c [] (.error .unauthorized) c
  | resumed {session : Session} {exchanges : List Exchange} {result : Except Error Configuration}
      {c' : Connector} (accepted : c.rejected = false) (held : c.session = some session)
      (gets : Gets c session exchanges result c') : Fetches c exchanges result c'
  | unasked {e : Error} (accepted : c.rejected = false) (free : c.session = none)
      (homeless : ∀ url, ¬ c.TokenAddress url) (other : e ≠ .unauthorized) :
      Fetches c [] (.error e) c
  | denied {request : Request} {reply : Reply} (accepted : c.rejected = false)
      (free : c.session = none) (asks : c.AsksToken request) (denies : reply.Denies) :
      Fetches c [⟨request, reply⟩] (.error .unauthorized) { c with rejected := true }
  | failed {request : Request} {reply : Reply} {e : Error} (accepted : c.rejected = false)
      (free : c.session = none) (asks : c.AsksToken request) (tolerates : ¬ reply.Denies)
      (fails : ∀ session, ¬ reply.Grants session) (other : e ≠ .unauthorized) :
      Fetches c [⟨request, reply⟩] (.error e) c
  | entered {request : Request} {reply : Reply} {session : Session} {exchanges : List Exchange}
      {result : Except Error Configuration} {c' : Connector} (accepted : c.rejected = false)
      (free : c.session = none) (asks : c.AsksToken request) (grants : reply.Grants session)
      (gets : Gets { c with session := some session } session exchanges result c') :
      Fetches c (⟨request, reply⟩ :: exchanges) result c'

/-- Whether the request can be sent. -/
def Sendable (request : Request) : Prop :=
  (request.url.isWeb && request.headers.all fun (_, text) => isHeaderText text) = true

theorem exchange_ends {request : Request} {exchanges : List Exchange}
    {result : Except NetworkFailure Response} (h : (exchange request).Ends exchanges result) :
    ¬ Sendable request ∧ exchanges = [] ∧ result = .error .unsendable ∨
      Sendable request ∧ ∃ reply, exchanges = [⟨request, reply⟩] ∧
        (reply = .broken ∧ result = .error .unanswered ∨
          ∃ r, reply = .response r ∧ result = .ok r) := by
  unfold exchange at h
  split at h
  · next sendable =>
    obtain ⟨reply, more, rfl, ended⟩ := (Talk.ends_send_bind_iff _ _ _ _).1 h
    refine .inr ⟨sendable, reply, ?_⟩
    cases reply with
    | broken =>
      obtain ⟨rfl, rfl⟩ := (Talk.ends_pure_iff _ _ _).1 ended
      exact ⟨rfl, .inl ⟨rfl, rfl⟩⟩
    | response r =>
      obtain ⟨rfl, rfl⟩ := (Talk.ends_pure_iff _ _ _).1 ended
      exact ⟨rfl, .inr ⟨r, rfl, rfl⟩⟩
  · next unsendable =>
    obtain ⟨rfl, rfl⟩ := (Talk.ends_pure_iff _ _ _).1 h
    exact .inl ⟨unsendable, rfl, rfl⟩

/-- The headers of a request for a token are the same for every connector, and can be sent. -/
theorem sendable_authenticationRequest_iff (c : Connector) (url : Url) :
    Sendable (c.authenticationRequest url) ↔ url.isWeb = true := by
  have headers : ([("content-type", "application/json"), ("user-agent", userAgent)].all
      fun (_, text) => isHeaderText text) = true := by
    decide +kernel
  unfold Sendable authenticationRequest
  rw [headers, Bool.and_true]

theorem carries_response_iff {α : Type} (format : Format α) (r : Response) (a : α) :
    (Reply.response r).Carries format a ↔ r.isSuccess = true ∧ decodeBody format r = .ok a := by
  rw [decodeBody, mapError_eq_ok_iff]
  constructor
  · rintro ⟨_, same, h⟩
    cases same
    exact h
  · intro h
    exact ⟨r, rfl, h⟩

theorem decodeBody_ne_unauthorized {α : Type} (format : Format α) (r : Response) :
    decodeBody format r ≠ .error .unauthorized := by
  unfold decodeBody
  cases format.ofBytes r.body with
  | error _ => exact fun h => nomatch h
  | ok _ => exact fun h => nomatch h

theorem heard_response (c : Connector) (r : Response) :
    c.heard (.response r) = if r.status = 403 then { c with session := none } else c :=
  ite_congr (propext Option.some_inj) (fun _ => rfl) fun _ => rfl

theorem heard_baseUrl (c : Connector) (reply : Reply) : (c.heard reply).baseUrl = c.baseUrl := by
  unfold heard
  split <;> rfl

theorem heard_session (c : Connector) (reply : Reply) :
    (c.heard reply).session = if reply.Forbids then none else c.session := by
  unfold heard
  split <;> rfl

theorem heard_rejected (c : Connector) (reply : Reply) :
    (c.heard reply).rejected = c.rejected := by
  unfold heard
  split <;> rfl

/-- What a connector makes of the answer to a request with its token. -/
theorem received_cases {α : Type} (format : Format α) (c : Connector) (r : Response) :
    (∃ a, (Reply.response r).Carries format a ∧ received format c r = (.ok a, c)) ∨
      (∀ a, ¬ (Reply.response r).Carries format a) ∧
        ∃ e, e ≠ .unauthorized ∧ received format c r = (.error e, c.heard (.response r)) := by
  unfold received
  by_cases success : r.isSuccess = true
  · rw [if_pos success]
    cases decoded : decodeBody format r with
    | ok a => exact .inl ⟨a, (carries_response_iff format r a).2 ⟨success, decoded⟩, rfl⟩
    | error e =>
      refine .inr ⟨fun a carries => ?_, e, ?_, ?_⟩
      · rw [carries_response_iff, decoded] at carries
        exact nomatch carries.2
      · rintro rfl
        exact decodeBody_ne_unauthorized format r decoded
      · have below := (r.isSuccess_iff.1 success).2
        rw [heard_response, if_neg (by omega)]
  · rw [if_neg success]
    refine .inr ⟨fun a carries => ?_, .unexpectedStatus r.status, ?_, ?_⟩
    · exact success ((carries_response_iff format r a).1 carries).1
    · exact fun h => nomatch h
    · rw [heard_response]

/-- How a request with the token of a session goes. -/
inductive Got {α : Type} (c : Connector) (session : Session) (format : Format α) (path : String)
    (pairs : List (String × String)) : List Exchange → Except Error α → Connector → Prop where
  | unasked {e : Error} (other : e ≠ .unauthorized) :
      Got c session format path pairs [] (.error e) c
  | failed {request : Request} {reply : Reply} {e : Error}
      (asks : c.Asks session path pairs request) (fails : ∀ a, ¬ reply.Carries format a)
      (other : e ≠ .unauthorized) :
      Got c session format path pairs [⟨request, reply⟩] (.error e) (c.heard reply)
  | read {request : Request} {reply : Reply} {a : α}
      (asks : c.Asks session path pairs request) (carries : reply.Carries format a) :
      Got c session format path pairs [⟨request, reply⟩] (.ok a) c

theorem got_of_ends {α : Type} {c c' : Connector} {session : Session} {format : Format α}
    {path : String} {pairs : List (String × String)} {exchanges : List Exchange}
    {result : Except Error α} (held : c.session = some session)
    (h : (c.get format path pairs).Ends exchanges (result, c')) :
    Got c session format path pairs exchanges result c' := by
  simp only [get, held] at h
  cases address : c.url? path (pairs ++ (session.claims.cluster.map ("cluster", ·)).toList) with
  | none =>
    rw [address] at h
    obtain ⟨rfl, rfl, rfl⟩ := Talk.eq_of_ends_pure h
    exact .unasked fun h => nomatch h
  | some url =>
    rw [address] at h
    obtain ⟨first, second, answer, rfl, sent, h⟩ := (Talk.ends_bind_iff _ _ _ _).1 h
    rcases exchange_ends sent with
      ⟨-, rfl, rfl⟩ | ⟨-, reply, rfl, ⟨rfl, rfl⟩ | ⟨r, rfl, rfl⟩⟩
    · obtain ⟨rfl, rfl, rfl⟩ := Talk.eq_of_ends_pure h
      exact .unasked fun h => nomatch h
    · obtain ⟨rfl, rfl, rfl⟩ := Talk.eq_of_ends_pure h
      exact .failed ⟨url, address, rfl⟩ (fun a ⟨r, same, _⟩ => nomatch same) fun h => nomatch h
    · obtain ⟨rfl, same⟩ := (Talk.ends_pure_iff _ _ _).1 h
      rcases received_cases format c r with ⟨a, carries, eq⟩ | ⟨fails, e, other, eq⟩
      · rw [eq] at same
        cases same
        exact .read ⟨url, address, rfl⟩ carries
      · rw [eq] at same
        cases same
        exact .failed ⟨url, address, rfl⟩ fails other

/-- The requests for a configuration go in one of the ways that there are. -/
theorem gets_of_ends {c c' : Connector} {session : Session} {exchanges : List Exchange}
    {result : Except Error Configuration} (held : c.session = some session)
    (h : (c.getConfiguration session.claims.environment).Ends exchanges (result, c')) :
    Gets c session exchanges result c' := by
  obtain ⟨first, second, ⟨flags, c₁⟩, rfl, asked, h⟩ := (Talk.ends_bind_iff _ _ _ _).1 h
  cases got_of_ends held asked with
  | unasked other =>
    obtain ⟨rfl, rfl, rfl⟩ := Talk.eq_of_ends_pure h
    exact .unasked other
  | failed asks fails other =>
    obtain ⟨rfl, rfl, rfl⟩ := Talk.eq_of_ends_pure h
    exact .flagsFailed asks fails other
  | read asks carries =>
    obtain ⟨third, fourth, ⟨segments, c₂⟩, rfl, asked', h⟩ := (Talk.ends_bind_iff _ _ _ _).1 h
    cases got_of_ends held asked' with
    | unasked other =>
      obtain ⟨rfl, rfl, rfl⟩ := Talk.eq_of_ends_pure h
      exact .halfAsked asks carries other
    | failed asks' fails other =>
      obtain ⟨rfl, rfl, rfl⟩ := Talk.eq_of_ends_pure h
      exact .segmentsFailed asks carries asks' fails other
    | read asks' carries' =>
      obtain ⟨rfl, rfl, rfl⟩ := Talk.eq_of_ends_pure h
      exact .whole asks carries asks' carries'

/-- What a connector makes of an answer that should hold a token. -/
theorem authenticated_of_success (c : Connector) {r : Response} (success : r.isSuccess = true) :
    (∃ session, (Reply.response r).Grants session ∧
        c.authenticated r = (.ok (), { c with session := some session })) ∨
      (∀ session, ¬ (Reply.response r).Grants session) ∧
        ∃ e, e ≠ .unauthorized ∧ c.authenticated r = (.error e, c) := by
  rw [authenticated, if_pos success]
  cases token : decodeBody tokenFormat r with
  | error e =>
    refine .inr ⟨fun session grants => ?_, e, ?_, rfl⟩
    · have held := ((carries_response_iff tokenFormat r session.token).1 grants.1).2
      rw [token] at held
      exact nomatch held
    · rintro rfl
      exact decodeBody_ne_unauthorized tokenFormat r token
  | ok token' =>
    have carries := (carries_response_iff tokenFormat r token').2 ⟨success, token⟩
    rw [ok_bind]
    cases claims : Claims.ofToken (Utf8.ofText token') with
    | error fault =>
      refine .inr ⟨fun session grants => ?_, .invalidToken fault, fun h => (nomatch h), rfl⟩
      obtain ⟨granted, read⟩ := grants
      rw [← carries.unique granted, claims] at read
      exact nomatch read
    | ok claims' => exact .inl ⟨⟨token', claims'⟩, ⟨carries, claims⟩, rfl⟩

/-- What a connector makes of an answer that tells of an error. -/
theorem authenticated_of_failure (c : Connector) {r : Response} (failure : ¬ r.isSuccess = true) :
    (Reply.response r).Denies ∧
        c.authenticated r = (.error .unauthorized, { c with rejected := true }) ∨
      ¬ (Reply.response r).Denies ∧
        ∃ e, e ≠ .unauthorized ∧ c.authenticated r = (.error e, c) := by
  rw [authenticated, if_neg failure, Reply.denies_response_iff]
  by_cases denied : r.status = 401 ∨ r.status = 403
  · refine .inl ⟨denied, ?_⟩
    rw [if_pos (by simpa using denied)]
  · refine .inr ⟨denied, .unexpectedStatus r.status, fun h => (nomatch h), ?_⟩
    rw [if_neg (by simpa using denied)]

/-- What a connector makes of the answer to a request for a token. -/
theorem authenticated_cases (c : Connector) (r : Response) :
    (∃ session, (Reply.response r).Grants session ∧
        c.authenticated r = (.ok (), { c with session := some session })) ∨
      (Reply.response r).Denies ∧
        c.authenticated r = (.error .unauthorized, { c with rejected := true }) ∨
      ¬ (Reply.response r).Denies ∧ (∀ session, ¬ (Reply.response r).Grants session) ∧
        ∃ e, e ≠ .unauthorized ∧ c.authenticated r = (.error e, c) := by
  by_cases success : r.isSuccess = true
  · rcases authenticated_of_success c success with granted | ⟨fails, e, other, eq⟩
    · exact .inl granted
    · have below := r.isSuccess_iff.1 success
      refine .inr (.inr ⟨?_, fails, e, other, eq⟩)
      rw [Reply.denies_response_iff]
      omega
  · rcases authenticated_of_failure c success with denied | ⟨tolerates, e, other, eq⟩
    · exact .inr (.inl denied)
    · refine .inr (.inr ⟨tolerates, fun session grants => ?_, e, other, eq⟩)
      exact success ((carries_response_iff tokenFormat r session.token).1 grants.1).1

/-- How the request for a token goes. -/
inductive Authenticates (c : Connector) : List Exchange → Except Error Unit → Connector → Prop where
  | unasked {e : Error} (homeless : ∀ url, ¬ c.TokenAddress url) (other : e ≠ .unauthorized) :
      Authenticates c [] (.error e) c
  | denied {request : Request} {reply : Reply} (asks : c.AsksToken request)
      (denies : reply.Denies) :
      Authenticates c [⟨request, reply⟩] (.error .unauthorized) { c with rejected := true }
  | failed {request : Request} {reply : Reply} {e : Error} (asks : c.AsksToken request)
      (tolerates : ¬ reply.Denies) (fails : ∀ session, ¬ reply.Grants session)
      (other : e ≠ .unauthorized) : Authenticates c [⟨request, reply⟩] (.error e) c
  | granted {request : Request} {reply : Reply} {session : Session} (asks : c.AsksToken request)
      (grants : reply.Grants session) :
      Authenticates c [⟨request, reply⟩] (.ok ()) { c with session := some session }

theorem authenticates_of_ends {c c' : Connector} {exchanges : List Exchange}
    {result : Except Error Unit} (h : c.authenticate.Ends exchanges (result, c')) :
    Authenticates c exchanges result c' := by
  unfold authenticate at h
  cases address : c.url? "/client/auth" [] with
  | none =>
    rw [address] at h
    obtain ⟨rfl, rfl, rfl⟩ := Talk.eq_of_ends_pure h
    exact .unasked (fun url found => nomatch address.symm.trans found.1) fun h => nomatch h
  | some url =>
    rw [address] at h
    obtain ⟨first, second, answer, rfl, sent, h⟩ := (Talk.ends_bind_iff _ _ _ _).1 h
    rcases exchange_ends sent with ⟨unsendable, rfl, rfl⟩ | ⟨sendable, reply, rfl, answered⟩
    · obtain ⟨rfl, rfl, rfl⟩ := Talk.eq_of_ends_pure h
      refine .unasked (fun url' found => ?_) fun h => nomatch h
      obtain rfl : url = url' := Option.some.inj (address.symm.trans found.1)
      exact unsendable ((sendable_authenticationRequest_iff c url).2 found.2)
    have asks : c.AsksToken (c.authenticationRequest url) :=
      ⟨url, ⟨address, (sendable_authenticationRequest_iff c url).1 sendable⟩, rfl⟩
    rcases answered with ⟨rfl, rfl⟩ | ⟨r, rfl, rfl⟩
    · obtain ⟨rfl, rfl, rfl⟩ := Talk.eq_of_ends_pure h
      refine .failed asks ?_ (fun session grants => ?_) fun h => nomatch h
      · rintro (h | h) <;> exact nomatch h
      · obtain ⟨r, same, -⟩ := grants.1
        exact nomatch same
    · obtain ⟨rfl, same⟩ := (Talk.ends_pure_iff _ _ _).1 h
      rcases authenticated_cases c r with
        ⟨session, grants, eq⟩ | ⟨denies, eq⟩ | ⟨tolerates, fails, e, other, eq⟩
      · rw [eq] at same
        cases same
        exact .granted asks grants
      · rw [eq] at same
        cases same
        exact .denied asks denies
      · rw [eq] at same
        cases same
        exact .failed asks tolerates fails other

/-- Every fetch goes in one of the ways that there are. -/
theorem fetches_of_ends {c c' : Connector} {exchanges : List Exchange}
    {result : Except Error Configuration} (h : c.fetch.Ends exchanges (result, c')) :
    Fetches c exchanges result c' := by
  unfold fetch at h
  cases accepted : c.rejected with
  | true =>
    rw [accepted] at h
    obtain ⟨rfl, rfl, rfl⟩ := Talk.eq_of_ends_pure h
    exact .latched accepted
  | false =>
    rw [accepted] at h
    cases held : c.session with
    | some session =>
      rw [held] at h
      have environment : c.environment = session.claims.environment := by
        rw [environment, held]
        rfl
      rw [environment] at h
      exact .resumed accepted held (gets_of_ends held h)
    | none =>
      rw [held] at h
      obtain ⟨first, second, ⟨granted, c₁⟩, rfl, asked, h⟩ := (Talk.ends_bind_iff _ _ _ _).1 h
      cases authenticates_of_ends asked with
      | unasked homeless other =>
        obtain ⟨rfl, rfl, rfl⟩ := Talk.eq_of_ends_pure h
        exact .unasked accepted held homeless other
      | denied asks denies =>
        obtain ⟨rfl, rfl, rfl⟩ := Talk.eq_of_ends_pure h
        exact .denied accepted held asks denies
      | failed asks tolerates fails other =>
        obtain ⟨rfl, rfl, rfl⟩ := Talk.eq_of_ends_pure h
        exact .failed accepted held asks tolerates fails other
      | granted asks grants => exact .entered accepted held asks grants (gets_of_ends rfl h)

theorem Gets.baseUrl {c c' : Connector} {session : Session} {exchanges : List Exchange}
    {result : Except Error Configuration} (h : Gets c session exchanges result c') :
    c'.baseUrl = c.baseUrl := by
  cases h with
  | unasked => rfl
  | flagsFailed => exact heard_baseUrl c _
  | halfAsked => rfl
  | segmentsFailed => exact heard_baseUrl c _
  | whole => rfl

/-- A connector stays with its service. -/
theorem Fetches.baseUrl {c c' : Connector} {exchanges : List Exchange}
    {result : Except Error Configuration} (h : Fetches c exchanges result c') :
    c'.baseUrl = c.baseUrl := by
  cases h with
  | latched => rfl
  | resumed _ _ gets => exact gets.baseUrl
  | unasked => rfl
  | denied => rfl
  | failed => rfl
  | entered _ _ _ _ gets => exact gets.baseUrl

end Connector

end FlagHost

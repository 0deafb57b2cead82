import FlagHost.Proofs.Addressing
import FlagHost.Proofs.Extending
import FlagHost.Proofs.Readiness

/-!
# Addresses that clients accept

A client is started with the address of a service, which is checked alone, while its connector reads
that text with paths behind it. Main statement: unless the text is frayed, every address that the
connector builds can be read, and the poller never gives up for want of an address. With a frayed
text of the web no address can be read, and the poller gives up before it has sent anything.
-/

namespace FlagHost

namespace Talk

variable {α β : Type}

/-- Whatever is replied, the result has the property. -/
def Yields (t : Talk α) (p : α → Prop) : Prop := ∀ exchanges a, t.Ends exchanges a → p a

theorem yields_pure {p : α → Prop} {a : α} (holds : p a) : (pure a : Talk α).Yields p := by
  intro exchanges a' ends
  rwa [((ends_pure_iff a a' exchanges).1 ends).2]

theorem Yields.bind {t : Talk α} {p : α → Prop} (h : t.Yields p) {f : α → Talk β} {q : β → Prop}
    (next : ∀ a, p a → (f a).Yields q) : (t >>= f).Yields q := by
  intro exchanges b ends
  obtain ⟨first, second, a, rfl, ends, ends'⟩ := (ends_bind_iff t f exchanges b).1 ends
  exact next a (h first a ends) second b ends'

theorem yields_true (t : Talk α) : t.Yields fun _ => True := fun _ _ _ => trivial

end Talk

namespace Connector

/-- All addresses that are built on the text can be read. -/
structure Usable (base : String) : Prop where
  token : (Url.parse? (base ++ "/client/auth")).isSome
  collection : ∀ (what : Collection) (environment : String),
    (Url.parse? (base ++ what.path environment)).isSome

theorem usable_of_not_frayed {base : String} (accepted : (Url.parse? base).isSome)
    (sound : ¬ Url.Frayed base) : Usable base where
  token := Url.isSome_parse?_append accepted sound "auth"
  collection what environment := by
    have split : what.path environment =
        "/client/" ++ ("env/" ++ environment ++ ("/" ++ what.name)) := by
      have front : "/client/env/" = "/client/" ++ "env/" := by decide
      rw [Collection.path, front]
      simp only [String.append_assoc]
    rw [split]
    exact Url.isSome_parse?_append accepted sound _

/-- The result is no complaint about an address, and the service stays the same. -/
def Addressable {α : Type} (base : String) (result : Except Error α × Connector) : Prop :=
  (match result.1 with
    | .ok _ => True
    | .error e => e ≠ .invalidUrl) ∧ result.2.baseUrl = base

variable {base : String} {c : Connector}

theorem addressable_received {α : Type} (format : Json.Format α) (c : Connector) (r : Response) :
    Addressable c.baseUrl (received format c r) := by
  unfold received
  split
  · unfold decodeBody
    cases format.ofBytes r.body with
    | ok a => exact ⟨trivial, rfl⟩
    | error defect => exact ⟨fun h => (by cases h), rfl⟩
  · refine ⟨fun h => (nomatch h), ?_⟩
    dsimp only
    split <;> rfl

theorem get_yields {α : Type} (format : Json.Format α) {path : String}
    (reads : (Url.parse? (c.baseUrl ++ path)).isSome) (pairs : List (String × String)) :
    (c.get format path pairs).Yields (Addressable c.baseUrl) := by
  obtain ⟨url, read⟩ := Option.isSome_iff_exists.1 reads
  unfold get
  split
  · exact Talk.yields_pure ⟨fun h => (by cases h), rfl⟩
  · next session _ =>
    simp only [url?, read, Option.map_some]
    refine (Talk.yields_true _).bind fun answer _ => ?_
    cases answer with
    | error failure => exact Talk.yields_pure ⟨fun h => (by cases h), rfl⟩
    | ok r => exact Talk.yields_pure (addressable_received format c r)

theorem addressable_authenticated (c : Connector) (r : Response) :
    Addressable c.baseUrl (c.authenticated r) := by
  unfold authenticated decodeBody
  split
  · cases tokenFormat.ofBytes r.body with
    | error defect => exact ⟨fun h => (by cases h), rfl⟩
    | ok token =>
      simp only [Except.mapError, ok_bind]
      cases Claims.ofToken (Utf8.ofText token) with
      | error fault => exact ⟨fun h => (by cases h), rfl⟩
      | ok claims => exact ⟨trivial, rfl⟩
  · split
    · exact ⟨fun h => (by cases h), rfl⟩
    · exact ⟨fun h => (by cases h), rfl⟩

theorem authenticate_yields (usable : Usable c.baseUrl) :
    c.authenticate.Yields (Addressable c.baseUrl) := by
  obtain ⟨url, read⟩ := Option.isSome_iff_exists.1 usable.token
  unfold authenticate
  simp only [url?, read, Option.map_some]
  refine (Talk.yields_true _).bind fun answer _ => ?_
  cases answer with
  | error failure => exact Talk.yields_pure ⟨fun h => (by cases h), rfl⟩
  | ok r => exact Talk.yields_pure (addressable_authenticated c r)

theorem getConfiguration_yields (usable : Usable c.baseUrl) (environment : String) :
    (c.getConfiguration environment).Yields (Addressable c.baseUrl) := by
  unfold getConfiguration
  refine (get_yields _ (usable.collection .flags environment) []).bind ?_
  rintro ⟨flags | flags, c₁⟩ ⟨other, same⟩
  · exact Talk.yields_pure ⟨other, same⟩
  · have reads := usable.collection .segments environment
    rw [← same] at reads
    refine (get_yields _ reads [("rules", "v2")]).bind ?_
    rintro ⟨segments | segments, c₂⟩ ⟨other', same'⟩
    · exact Talk.yields_pure ⟨other', same'.trans same⟩
    · exact Talk.yields_pure ⟨trivial, same'.trans same⟩

theorem fetch_yields (usable : Usable c.baseUrl) : c.fetch.Yields (Addressable c.baseUrl) := by
  unfold fetch
  split
  · exact Talk.yields_pure ⟨fun h => (by cases h), rfl⟩
  · split
    · exact getConfiguration_yields usable _
    · refine (authenticate_yields usable).bind ?_
      rintro ⟨entered | entered, c₁⟩ ⟨other, same⟩
      · exact Talk.yields_pure ⟨other, same⟩
      · rw [← same] at usable ⊢
        exact getConfiguration_yields usable _

/-- Without an address for tokens nothing is sent. -/
theorem fetch_of_homeless (accepted : c.rejected = false) (free : c.session = none)
    (homeless : c.url? "/client/auth" [] = none) : c.fetch = pure (.error .invalidUrl, c) := by
  unfold fetch authenticate
  rw [accepted, free, homeless]
  rfl

end Connector

namespace Polling

variable {c : Connector} {polls : List (List Exchange)} {p q : Polling}

/-- The poller does not give up for want of an address, and did not. -/
def Supplied (p : Polling) : Prop :=
  p.poller ≠ .failing .invalidUrl ∧ p.readiness ≠ some (.error .invalidUrl)

theorem Supplied.of_step (usable : Connector.Usable c.baseUrl)
    (tracks : p.poller.Tracks c polls p.store.snapshot) (h : p.Supplied)
    (step : p.step? = some q) : q.Supplied := by
  obtain ⟨poller, store, readiness, stopping, answered⟩ := p
  obtain ⟨going, noted⟩ := h
  cases poller with
  | fetching talk =>
    cases talk with
    | ask => cases step
    | done result =>
      obtain ⟨result, connector'⟩ := result
      obtain ⟨poll, earlier, connector, rfl, same, leads, -⟩ := tracks
      rw [← same] at usable
      have addressable := Connector.fetch_yields usable _ _ leads
      cases result with
      | ok configuration =>
        cases step
        exact ⟨fun h => (nomatch h), noted⟩
      | error e =>
        cases step
        refine ⟨?_, noted⟩
        change (if e.isFinal then Poller.failing e else .resting connector') ≠ _
        split
        · exact fun h => addressable.1 (Poller.failing.inj h)
        · exact fun h => nomatch h
  | publishing configuration connector =>
    cases step
    exact ⟨fun h => (nomatch h), noted⟩
  | noting connector =>
    cases step
    refine ⟨fun h => (nomatch h), fun h => ?_⟩
    rw [Readiness.update_ok] at h
    exact nomatch h
  | failing e =>
    cases step
    refine ⟨fun h => (nomatch h), fun h => going ?_⟩
    rw [(Readiness.update_error_eq_error h).2]
  | resting connector =>
    cases stopping with
    | false => cases step
    | true =>
      cases step
      exact ⟨fun h => (nomatch h), noted⟩
  | ended => cases step

theorem Runs.supplied (usable : Connector.Usable c.baseUrl) (h : Runs c polls p) :
    p.Supplied := by
  induction h with
  | start => exact ⟨fun h => (nomatch h), fun h => (nomatch h)⟩
  | step runs step ih => exact ih.of_step usable runs.tracks step
  | receive _ _ _ ih => exact ⟨fun h => (nomatch h), ih.2⟩
  | wake _ _ _ ih => exact ⟨fun h => (nomatch h), ih.2⟩
  | stop _ ih => exact ih

/-- Where a poller is that has no address to ask at: it is about to give up or it has. -/
inductive Stranded (c : Connector) : Poller → Readiness → Prop where
  | fetched : Stranded c (.fetching (.done (.error .invalidUrl, c))) none
  | failing : Stranded c (.failing .invalidUrl) none
  | ended : Stranded c .ended (some (.error .invalidUrl))

theorem Runs.stranded (homeless : c.fetch = .done (.error .invalidUrl, c)) (h : Runs c polls p) :
    p.answered = [] ∧ p.store.snapshot = none ∧ Stranded c p.poller p.readiness := by
  induction h with
  | start =>
    refine ⟨rfl, rfl, ?_⟩
    rw [Polling.start, homeless]
    exact .fetched
  | @step polls p q _ step ih =>
    obtain ⟨unsent, empty, stranded⟩ := ih
    obtain ⟨poller, store, readiness, stopping, answered⟩ := p
    cases stranded with
    | fetched =>
      cases step
      exact ⟨unsent, empty, .failing⟩
    | failing =>
      cases step
      exact ⟨unsent, empty, .ended⟩
    | ended => cases step
  | receive _ asks _ ih =>
    have stranded := ih.2.2
    rw [asks] at stranded
    cases stranded
  | wake _ rests _ ih =>
    have stranded := ih.2.2
    rw [rests] at stranded
    cases stranded
  | stop _ ih => exact ih

theorem settle_of_homeless (homeless : c.fetch = .done (.error .invalidUrl, c)) :
    (Polling.start c).settle.poller = .ended ∧
      (Polling.start c).settle.readiness = some (.error .invalidUrl) := by
  rw [Polling.start, homeless]
  exact ⟨rfl, rfl⟩

end Polling

namespace Client

/-- What comes of the address of the service that a client was started with. -/
structure BaseChecked (key : String) (settings : ClientSettings) (client : Client) : Prop where
  polling : client.polling = .start { apiKey := key, baseUrl := settings.configUrl }
  /-- Every address that is built for a token or a collection can be read. -/
  usable : ¬ Url.Frayed settings.configUrl → Connector.Usable settings.configUrl
  /-- The poller never gives up for want of an address. -/
  supplied : ¬ Url.Frayed settings.configUrl → ∀ polls p,
    Polling.Runs { apiKey := key, baseUrl := settings.configUrl } polls p → p.Supplied
  /-- On a frayed address of the web nothing can be built. -/
  unusable : Url.Frayed settings.configUrl → ∀ url, Url.parse? settings.configUrl = some url →
    Url.isSpecial url.scheme = true → ∀ (path : String) more, path.toList = '/' :: more →
      Url.parse? (settings.configUrl ++ path) = none
  /-- Then the poller gives up at once, and sends nothing before. -/
  gives_up : Url.Frayed settings.configUrl → ∀ url, Url.parse? settings.configUrl = some url →
    Url.isSpecial url.scheme = true →
      client.polling.settle.poller = .ended ∧
      client.polling.settle.readiness = some (.error .invalidUrl) ∧
      ∀ polls p, Polling.Runs { apiKey := key, baseUrl := settings.configUrl } polls p →
        p.answered = [] ∧ p.store.snapshot = none

theorem accepted_of_start {key : String} {settings : ClientSettings} {client : Client}
    (started : start key settings = .ok client) :
    (Url.parse? settings.configUrl).isSome ∧
      client.polling = .start { apiKey := key, baseUrl := settings.configUrl } := by
  unfold start startWith at started
  split at started
  · exact nomatch started
  · split at started
    · exact nomatch started
    · next read =>
      obtain rfl := Except.ok.inj started
      simp only [Bool.or_eq_true, Bool.not_eq_true', not_or, Bool.not_eq_false] at read
      exact ⟨read.1, rfl⟩

/-- What the check of the address is worth when a client is started. -/
theorem baseChecked_of_start {key : String} {settings : ClientSettings} {client : Client}
    (started : start key settings = .ok client) : BaseChecked key settings client := by
  obtain ⟨accepted, polling⟩ := accepted_of_start started
  constructor
  case polling => exact polling
  case usable => exact Connector.usable_of_not_frayed accepted
  case supplied =>
    intro sound polls p runs
    have usable := Connector.usable_of_not_frayed accepted sound
    exact runs.supplied usable
  case unusable =>
    intro frayed url read special path more slash
    exact Url.parse?_append_eq_none read special frayed slash
  case gives_up =>
    intro frayed url read special
    have homeless : Connector.fetch { apiKey := key, baseUrl := settings.configUrl } =
        .done (.error .invalidUrl, { apiKey := key, baseUrl := settings.configUrl }) := by
      refine Connector.fetch_of_homeless rfl rfl ?_
      have slash : "/client/auth".toList = '/' :: "client/auth".toList := by decide
      rw [Connector.url?, Url.parse?_append_eq_none read special frayed slash]
      rfl
    rw [polling]
    obtain ⟨ended, noted⟩ := Polling.settle_of_homeless homeless
    refine ⟨ended, noted, fun polls p runs => ?_⟩
    obtain ⟨unsent, empty, -⟩ := runs.stranded homeless
    exact ⟨unsent, empty⟩

/-- The default address is accepted and can be used. -/
theorem baseChecked_default :
    ∃ client, start "key" {} = .ok client ∧ BaseChecked "key" {} client ∧
      ¬ Url.Frayed ({} : ClientSettings).configUrl := by
  have started : start "key" {} = .ok ⟨.start
      { apiKey := "key", baseUrl := ({} : ClientSettings).configUrl }⟩ := by
    rw [start, startWith, if_neg (by decide +kernel), if_neg (by decide +kernel)]
  refine ⟨_, started, baseChecked_of_start started, fun frayed => frayed.1 ?_⟩
  decide +kernel

/-- An address with a blank behind its port is accepted, but no token can be asked for there: the
poller gives up. -/
theorem gives_up_of_blank :
    ∃ client, start "key" { configUrl := "http://127.0.0.1:9 " } = .ok client ∧
      (Url.parse? ("http://127.0.0.1:9 " ++ "/client/auth")).isNone ∧
      client.polling.settle.poller = .ended ∧
      client.polling.settle.readiness = some (.error .invalidUrl) := by
  have started : start "key" { configUrl := "http://127.0.0.1:9 " } = .ok ⟨.start
      { apiKey := "key", baseUrl := "http://127.0.0.1:9 " }⟩ := by
    rw [start, startWith, if_neg (by decide +kernel), if_neg (by decide +kernel)]
  have homeless : Connector.url? { apiKey := "key", baseUrl := "http://127.0.0.1:9 " }
      "/client/auth" [] = none := by
    decide +kernel
  refine ⟨_, started, by decide +kernel, ?_⟩
  exact Polling.settle_of_homeless (Connector.fetch_of_homeless rfl rfl homeless)

end Client

end FlagHost

import FlagHost.Proofs.SelfTesting

/-!
# Where the self test agrees with the server

The test writes requests and reads answers, and the server reads requests and writes answers; the
two have nothing in common but what they were made for. Main statement: they agree on every key of
a flag, whatever clients the server has and whatever these say, as long as the body with the key is
not too large. Where it is, or where there is no client for the last check, all other checks are
passed and the last one tells the status of the answer.

A check that is passed leaves the others to decide. So the checks that need no client leave the
last one, by induction on them, and the last one is decided by how its request is dealt with.
-/

namespace FlagHost

namespace SelfTest

/-! ## Tests against one who answers each request on its own -/

section Met

variable {reply : Request → Reply} {check : Request × (Response → Except Error Unit)} {r : Response}

theorem against_pass_cons (sendable : Connector.Sendable check.1)
    (replied : reply check.1 = .response r)
    (rest : List (Request × (Response → Except Error Unit))) :
    (pass (check :: rest)).against reply =
      match check.2 r with
      | .error e => .error e
      | .ok () => (pass rest).against reply := by
  obtain ⟨request, expect⟩ := check
  rw [pass_cons sendable, Talk.against, replied]
  dsimp only
  cases expect r <;> rfl

/-- The request is sent in any case, the others only if the check is passed. -/
theorem requests_pass_cons (sendable : Connector.Sendable check.1)
    (replied : reply check.1 = .response r)
    (rest : List (Request × (Response → Except Error Unit))) :
    (pass (check :: rest)).requests reply =
      check.1 ::
        match check.2 r with
        | .error _ => []
        | .ok () => (pass rest).requests reply := by
  obtain ⟨request, expect⟩ := check
  rw [pass_cons sendable, Talk.requests, replied]
  dsimp only
  cases expect r <;> rfl

theorem against_pass_singleton (sendable : Connector.Sendable check.1)
    (replied : reply check.1 = .response r) : (pass [check]).against reply = check.2 r := by
  rw [against_pass_cons sendable replied]
  cases check.2 r <;> rfl

theorem requests_pass_singleton (sendable : Connector.Sendable check.1)
    (replied : reply check.1 = .response r) : (pass [check]).requests reply = [check.1] := by
  rw [requests_pass_cons sendable replied]
  cases check.2 r <;> rfl

/-- The check is passed by what is replied to its request. -/
def Met (reply : Request → Reply) (check : Request × (Response → Except Error Unit)) : Prop :=
  Connector.Sendable check.1 ∧ ∃ r, reply check.1 = .response r ∧ check.2 r = .ok ()

variable {before : List (Request × (Response → Except Error Unit))}

/-- Checks that are passed leave the others to decide. -/
theorem against_pass_append (met : ∀ check ∈ before, Met reply check)
    (rest : List (Request × (Response → Except Error Unit))) :
    (pass (before ++ rest)).against reply = (pass rest).against reply := by
  induction before with
  | nil => rfl
  | cons check before ih =>
    obtain ⟨⟨sendable, r, replied, ok⟩, behind⟩ := List.forall_mem_cons.1 met
    rw [List.cons_append, against_pass_cons sendable replied, ok]
    exact ih behind

theorem requests_pass_append (met : ∀ check ∈ before, Met reply check)
    (rest : List (Request × (Response → Except Error Unit))) :
    (pass (before ++ rest)).requests reply = before.map (·.1) ++ (pass rest).requests reply := by
  induction before with
  | nil => rfl
  | cons check before ih =>
    obtain ⟨⟨sendable, r, replied, ok⟩, behind⟩ := List.forall_mem_cons.1 met
    rw [List.cons_append, requests_pass_cons sendable replied, ok]
    simp [ih behind]

end Met

/-! ## The body of the last check -/

/-- The members behind the key, which are the same for every key. -/
def membersBehind : List (String × Json) :=
  [("flag_kind", .text "boolean"),
    ("target", .object [("target_identifier", .text "test"), ("target_name", .text "test")])]

/-- The members are in the order of their names. -/
theorem canonical_checkRequest (key : String) :
    Json.canonical (CheckRequest.format.encode ⟨"boolean", key, ⟨"test", "test"⟩⟩) =
      .object (("flag_key", .text key) :: membersBehind) := by
  have encoded : CheckRequest.format.encode ⟨"boolean", key, ⟨"test", "test"⟩⟩ =
      .object [("flag_kind", .text "boolean"), ("flag_key", .text key),
        ("target", .object [("target_identifier", .text "test"), ("target_name", .text "test")])] :=
    rfl
  have first : "flag_key" < "flag_kind" := by decide
  have last : ¬ "target" < "flag_key" ∧ ¬ "target" < "flag_kind" := by decide
  have inner : ¬ "target_name" < "target_identifier" := by decide
  rw [encoded]
  simp [Json.canonical, Json.canonicalOnto, Table.put, membersBehind, first, last, inner]

/-- The key stands in the body as it is escaped. -/
theorem checkBody_eq (key : String) :
    checkBody key =
      Utf8.encode ('\x7b' :: Json.writeText "flag_key" ++ [':', '"']) ++
        Utf8.encode (key.toList.flatMap Json.escapeChar) ++
        Utf8.encode ('"' :: Json.writeMembers membersBehind) := by
  rw [checkBody, canonical_checkRequest, Json.toBytes, ← Utf8.encode_append, ← Utf8.encode_append]
  simp [Json.write, Json.writeText]

/-- All that stands around the key takes 96 bytes. -/
theorem length_checkBody (key : String) :
    (checkBody key).length = (Utf8.encode (key.toList.flatMap Json.escapeChar)).length + 96 := by
  have front : (Utf8.encode ('\x7b' :: Json.writeText "flag_key" ++ [':', '"'])).length = 13 := by
    decide +kernel
  have back : (Utf8.encode ('"' :: Json.writeMembers membersBehind)).length = 83 := by
    decide +kernel
  rw [checkBody_eq, List.length_append, List.length_append, front, back]
  omega

theorem length_encode_escapeChar_pos (c : Char) :
    0 < (Utf8.encode (Json.escapeChar c)).length := by
  have escaped : Json.escapeChar c ≠ [] := by
    unfold Json.escapeChar
    split_ifs <;> simp
  obtain ⟨d, ds, same⟩ := List.exists_cons_of_ne_nil escaped
  rw [same, Utf8.encode_cons, List.length_append]
  exact Nat.add_pos_left (List.length_pos_iff.2 (Utf8.encodeChar_ne_nil d)) _

/-- Every character of the key takes a byte of the body, or more. -/
theorem length_lt_checkBody (key : String) : key.length < (checkBody key).length := by
  have escaped (cs : List Char) :
      cs.length ≤ (Utf8.encode (cs.flatMap Json.escapeChar)).length := by
    induction cs with
    | nil => exact Nat.zero_le _
    | cons c cs ih =>
      have pos := length_encode_escapeChar_pos c
      rw [List.flatMap_cons, Utf8.encode_append, List.length_append, List.length_cons]
      omega
  have h := escaped key.toList
  rw [String.length_toList] at h
  rw [length_checkBody]
  omega

/-! ## Answers to the last check -/

variable {γ : Type} [FlagClient γ]

theorem decoded_plain {α : Type} (format : Json.Format α) (failure : String) :
    decoded format (.plain 500 failure) =
      .error (.network (.status 500 "Internal Server Error")) := by
  rw [decoded, unlessError, if_pos ⟨by simp [Response.plain], by simp [Response.plain]⟩]
  rfl

/-- A check whose body is too large, or that there is no client for, fails by the status of what
is answered. -/
theorem expectFlag_of_refused (server : Url) (key : String) {client : Option γ}
    (refused : client = none ∨ 1048576 < (checkBody key).length) :
    expectFlag key (answer client (checkRequest server key)) =
      .error (.network (.status 500 "Internal Server Error")) := by
  have fails : ∃ failure,
      CheckRequest.FirstFailure client.isSome (checkRequest server key).body failure := by
    by_cases large : 1048576 < (checkBody key).length
    · exact ⟨_, .tooLarge large⟩
    · obtain rfl := refused.resolve_right large
      exact ⟨_, .clientless (heldBy_checkBody (Nat.not_lt.1 large)) rfl⟩
  obtain ⟨failure, fails⟩ := fails
  have answered : answer client (checkRequest server key) = .plain 500 failure :=
    (Deals.failed rfl (requestedPath_check server key) fails).eq_handle.2
  rw [answered, expectFlag, decoded_plain]
  rfl

/-! ## Agreement -/

/-- How a server replies that has these clients when the requests come. It may get its client at any
time, so also between two of the requests. -/
def serving (slot : Request → Option γ) (request : Request) : Reply :=
  replying (slot request) request

/-- What is known of a test of a server that has these clients. -/
structure Agrees (server : Url) (key : String) (slot : Request → Option γ) : Prop where
  /-- Every request is sent, so that no check fails but the last. -/
  requests_eq :
    (selfTest server key).requests (serving slot) = (checks server key).map (·.1)
  clientless_eq : ∀ check ∈ clientless server, check.2 (answer (slot check.1) check.1) = .ok ()
  /-- The test says what the last check says. -/
  against_eq : (selfTest server key).against (serving slot) =
    expectFlag key (answer (slot (checkRequest server key)) (checkRequest server key))
  ok : (slot (checkRequest server key)).isSome → (checkBody key).length ≤ 1048576 →
    (selfTest server key).against (serving slot) = .ok ()
  refused : slot (checkRequest server key) = none ∨ 1048576 < (checkBody key).length →
    (selfTest server key).against (serving slot) =
      .error (.network (.status 500 "Internal Server Error"))

theorem met_clientless {server : Url} (web : server.isWeb = true) (slot : Request → Option γ) :
    ∀ check ∈ clientless server, Met (serving slot) check := by
  intro check mem
  exact ⟨sendable_clientless web check mem, _, rfl, expect_clientless server _ check mem⟩

/-- The test and the server agree on every key that fits into a body, whatever clients the server
has, and else the last check fails. -/
theorem agrees_of_isWeb {server : Url} (web : server.isWeb = true) (key : String)
    (slot : Request → Option γ) : Agrees server key slot := by
  have sendable := sendable_checkRequest web key
  have against_eq : (selfTest server key).against (serving slot) =
      expectFlag key (answer (slot (checkRequest server key)) (checkRequest server key)) := by
    rw [selfTest, checks_eq, against_pass_append (met_clientless web slot)]
    exact against_pass_singleton sendable rfl
  constructor
  case requests_eq =>
    rw [selfTest, checks_eq, requests_pass_append (met_clientless web slot),
      requests_pass_singleton sendable rfl, List.map_append, List.map_singleton]
  case clientless_eq => exact fun check mem => expect_clientless server _ check mem
  case against_eq => exact against_eq
  case ok =>
    intro isSome small
    obtain ⟨client, present⟩ := Option.isSome_iff_exists.1 isSome
    rw [against_eq, present, expect_check server small]
  case refused =>
    intro refused
    rw [against_eq, expectFlag_of_refused server key refused]

/-- A key with a quote, a control character and characters of several bytes, a server that has no
client yet, and a key that alone takes all that a body may have. -/
theorem agrees_of_isWeb_keys :
    let server : Url :=
      { scheme := "http", host := some "127.0.0.1".toList, port := some 4000, path := .segments [] }
    let client : Request → Option StubClient := fun _ => some {}
    (selfTest server "\"\n\\é😀").against (serving client) = .ok () ∧
      (selfTest server "flag1").against (serving fun _ => (none : Option StubClient)) =
        .error (.network (.status 500 "Internal Server Error")) ∧
      (selfTest server (String.ofList (List.replicate 1048576 'a'))).against (serving client) =
        .error (.network (.status 500 "Internal Server Error")) := by
  intro server client
  have web : server.isWeb = true := rfl
  refine ⟨?_, ?_, ?_⟩
  · exact (agrees_of_isWeb web _ client).ok rfl (by decide +kernel)
  · exact (agrees_of_isWeb web "flag1" _).refused (.inl rfl)
  · refine (agrees_of_isWeb web _ client).refused (.inr ?_)
    have longer := length_lt_checkBody (String.ofList (List.replicate 1048576 'a'))
    rwa [String.length_ofList, List.length_replicate] at longer

end SelfTest

end FlagHost

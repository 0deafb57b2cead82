import FlagHost.Proofs.Delivery
import FlagHost.Proofs.Fetching
import FlagHost.Server.SelfTest

/-!
# What a self test says

A self test puts four requests, and the server answers each of them with the client that it has at
the time, unless the answer comes too late. Main statement: whatever clients these are, the test is
passed if all answers come in time, provided that the last request is not too large; and if one does
not, the test fails for want of an answer. So what flags there are, and whether there are any, is
not tested, but how long it takes to evaluate one of them is.

Each check is passed by what a server answers to its request. The checks follow one another, so what
comes of a test follows by induction on those that are left.
-/

namespace FlagHost

open Json (Format Integral Within nestingLimit)

theorem CheckTarget.lawful_format (n : Nat) : CheckTarget.format.Lawful (n + 1) := by
  refine (Format.lawful_record _ (by decide) ?_).map _ _ fun _ => rfl
  exact ⟨Format.lawful_text n, Format.lawful_text n, trivial⟩

theorem CheckRequest.lawful_format (n : Nat) : CheckRequest.format.Lawful (n + 2) := by
  refine (Format.lawful_record _ (by decide) ?_).map _ _ fun _ => rfl
  exact ⟨Format.lawful_text _, Format.lawful_text _, CheckTarget.lawful_format n, trivial⟩

namespace SelfTest

variable {γ : Type} [FlagClient γ]

/-- What a server with the client answers to a request. -/
def answer (client : Option γ) (request : Request) : Response :=
  respond client request.method request.url.target request.body

/-- The request is sent, and is answered as it is expected whatever the client is. -/
def Passes (γ : Type) [FlagClient γ] (check : Request × (Response → Except Error Unit)) : Prop :=
  Connector.Sendable check.1 ∧ ∀ client : γ, check.2 (answer (some client) check.1) = .ok ()

/-- Each request is answered by a server with a client, which may be another one each time. -/
def Answered (γ : Type) [FlagClient γ] (exchanges : List Exchange) : Prop :=
  ∀ e ∈ exchanges, ∃ client : γ, e.reply = replying (some client) e.request

/-- Each request is answered by a server with a client, or is left without an answer. -/
def Attended (γ : Type) [FlagClient γ] (exchanges : List Exchange) : Prop :=
  ∀ e ∈ exchanges, e.reply = .broken ∨ ∃ client : γ, e.reply = replying (some client) e.request

theorem Answered.attended {exchanges : List Exchange} (h : Answered γ exchanges) :
    Attended γ exchanges := fun e mem => .inr (h e mem)

theorem Answered.ne_broken {exchanges : List Exchange} (h : Answered γ exchanges) {e : Exchange}
    (mem : e ∈ exchanges) : e.reply ≠ .broken := by
  obtain ⟨client, replied⟩ := h e mem
  rw [replied]
  exact fun same => nomatch same

/-! ## Tests -/

/-- A check asks once, and goes on if the answer is as it is expected. -/
theorem pass_cons {request : Request} (sendable : Connector.Sendable request)
    (expect : Response → Except Error Unit)
    (rest : List (Request × (Response → Except Error Unit))) :
    pass ((request, expect) :: rest) = .ask request fun
      | .broken => .done (.error (.network .unanswered))
      | .response r =>
        match expect r with
        | .error e => .done (.error e)
        | .ok () => pass rest := by
  rw [Connector.Sendable] at sendable
  rw [pass, exchange, Connector.exchange, if_pos sendable]
  change Talk.ask request _ = _
  congr 1
  funext reply
  cases reply <;> rfl

/-- A check that is passed goes on with any client's answer, and ends the test without one. -/
theorem Passes.exists_ask {check : Request × (Response → Except Error Unit)}
    (passes : Passes γ check) (rest : List (Request × (Response → Except Error Unit))) :
    ∃ next, pass (check :: rest) = .ask check.1 next ∧
      next .broken = .done (.error (.network .unanswered)) ∧
      ∀ client : γ, next (replying (some client) check.1) = pass rest := by
  obtain ⟨request, expect⟩ := check
  obtain ⟨sendable, expected⟩ := passes
  refine ⟨_, pass_cons sendable expect rest, rfl, fun client => ?_⟩
  rw [replying]
  dsimp only
  rw [show expect (respond _ _ _ _) = .ok () from expected client]

/-- The first request without an answer ends a test whose checks are all passed. -/
theorem cases_of_pass_ends {checks : List (Request × (Response → Except Error Unit))}
    (all : ∀ check ∈ checks, Passes γ check) {exchanges : List Exchange}
    (attended : Attended γ exchanges) {result : Except Error Unit}
    (ends : (pass checks).Ends exchanges result) :
    (result = .ok () ∧ Answered γ exchanges) ∨
      (result = .error (.network .unanswered) ∧ ∃ e ∈ exchanges, e.reply = .broken) := by
  induction checks generalizing exchanges with
  | nil =>
    obtain ⟨rfl, passed⟩ := (Talk.ends_pure_iff _ _ _).1 ends
    exact .inl ⟨passed, fun _ mem => nomatch mem⟩
  | cons check rest ih =>
    obtain ⟨first, behind⟩ := List.forall_mem_cons.1 all
    obtain ⟨next, asks, unanswered, answered⟩ := first.exists_ask rest
    rw [asks, Talk.ends_ask_iff] at ends
    obtain ⟨reply, more, rfl, ends⟩ := ends
    obtain ⟨first, others⟩ := List.forall_mem_cons.1 attended
    rcases first with broken | ⟨client, replied⟩
    · rw [show reply = .broken from broken, unanswered] at ends
      obtain ⟨-, failed⟩ := (Talk.ends_pure_iff _ _ _).1 ends
      exact .inr ⟨failed, _, List.mem_cons_self, broken⟩
    · rw [show reply = replying (some client) check.1 from replied, answered] at ends
      rcases ih behind others ends with ⟨passed, served⟩ | ⟨failed, e, mem, broken⟩
      · exact .inl ⟨passed, List.forall_mem_cons.2 ⟨⟨client, replied⟩, served⟩⟩
      · exact .inr ⟨failed, e, List.mem_cons_of_mem _ mem, broken⟩

/-- With a client that stays the same, it depends on the time that the answers take. -/
theorem against_pass_inTime {checks : List (Request × (Response → Except Error Unit))}
    (all : ∀ check ∈ checks, Passes γ check) (takes : Request → Nat) (client : γ) :
    (pass checks).against (inTime takes (replying (some client))) =
      if ∀ check ∈ checks, takes check.1 ≤ patience then .ok ()
      else .error (.network .unanswered) := by
  induction checks with
  | nil => rfl
  | cons check rest ih =>
    obtain ⟨first, behind⟩ := List.forall_mem_cons.1 all
    obtain ⟨next, asks, unanswered, answered⟩ := first.exists_ask rest
    rw [asks, Talk.against, inTime]
    simp only [List.forall_mem_cons]
    by_cases prompt : takes check.1 ≤ patience
    · simp only [prompt, if_true, true_and, answered, ih behind]
    · simp only [prompt, if_false, false_and, unanswered]
      rfl

/-! ## Checks -/

theorem decoded_json {α : Type} {format : Format α} {v : Json} {a : α}
    (read : format.ofBytes v.toBytes = .ok a) : decoded format (.json 200 (.ok v)) = .ok a := by
  have body : Connector.decodeBody format (.json 200 (.ok v)) = .ok a := by
    rw [Connector.decodeBody]
    exact congrArg (Except.mapError _) read
  exact body

/-- A document that is answered is the one that is expected. -/
theorem expectDocument_json {check : String} {v : Json} (integral : Integral v)
    (within : Within nestingLimit v) (same : v.equivalent v = true) :
    expectDocument check v (.json 200 (.ok v)) = .ok () := by
  have read := Format.faithful_document.ofBytes_toBytes integral within rfl
  rw [expectDocument, decoded_json read]
  change ensure check (v.equivalent v) = .ok ()
  rw [same]
  rfl

theorem expectFlag_json (key : String) (b : Bool) :
    expectFlag key (.json 200 (.ok (CheckAnswer.format.encode ⟨key, toString b⟩))) = .ok () := by
  rw [expectFlag, decoded_json (CheckAnswer.ofBytes_toBytes ⟨key, toString b⟩)]
  have truth : (Flag.Kind.read? .boolean (toString b)).isSome = true := by cases b <;> decide
  change ensure _ (key == key && (Flag.Kind.read? .boolean (toString b)).isSome) = .ok ()
  rw [beq_self_eq_true, truth]
  rfl

/-- It is enough to know how the request is dealt with. -/
theorem expect_answer_of_deals {client : Option γ} {request : Request}
    {expect : Response → Except Error Unit} {questions : List Question} {response : Response}
    (deals : Deals client request.method (requestedPath request.url.target) request.body questions
      response) (expected : expect response = .ok ()) :
    expect (answer client request) = .ok () := by
  have answered : answer client request = response := deals.eq_handle.2
  rwa [answered]

/-- The body of the check is read as it was meant. -/
theorem heldBy_checkBody {key : String} (small : (checkBody key).length ≤ 1048576) :
    CheckRequest.HeldBy ⟨"boolean", key, ⟨"test", "test"⟩⟩ (checkBody key) :=
  ⟨small, (CheckRequest.lawful_format 125).ofBytes_canonical _⟩

/-- A request asks for the path that it was made for, unless marks in it end the path. -/
theorem requestedPath_url (server : Url) {path : List String} {asked : String}
    (spelled : (path.map String.toList).flatMap ('/' :: ·) = asked.toList)
    (first : asked.toList.head? = some '/')
    (unmarked : asked.toList.all (fun c => c ≠ '?' && c ≠ '#') = true) :
    requestedPath (url server path).target = asked := by
  have isPath : IsPath asked.toList := ⟨first, by simpa using unmarked⟩
  have target : (url server path).target = String.ofList (asked.toList ++ []) :=
    congrArg (fun cs => String.ofList (cs ++ [])) spelled
  rw [target, requestedPath_append isPath (.inl rfl), String.ofList_toList]

/-- The checks that a server passes without a client. -/
def clientless (server : Url) : List (Request × (Response → Except Error Unit)) :=
  [(getRequest server ["sdk", "version"],
      expectDocument "/sdk/version" (.object [("version", .text version)])),
   (getRequest server ["api", "1.0", "ping"],
      expectDocument "/api/1.0/ping" (.object [("ok", .boolean true)])),
   (getRequest server ["api", "1.0", "unknown"], expectNotFound)]

theorem checks_eq (server : Url) (key : String) :
    checks server key = clientless server ++ [(checkRequest server key, expectFlag key)] := rfl

theorem mem_checks (server : Url) (key : String) :
    (checkRequest server key, expectFlag key) ∈ checks server key :=
  List.mem_append_right (clientless server) List.mem_cons_self

section Answers

variable (server : Url) (client : Option γ)

theorem expect_version :
    expectDocument "/sdk/version" (.object [("version", .text version)])
      (answer client (getRequest server ["sdk", "version"])) = .ok () := by
  have asked : requestedPath (url server ["sdk", "version"]).target = "/sdk/version" :=
    requestedPath_url server rfl rfl (by decide)
  refine expect_answer_of_deals (.version rfl asked) ?_
  refine expectDocument_json (.object ?_) (.object ?_) (by decide +kernel)
  · exact List.forall_mem_singleton.2 (.text "0.1.0")
  · exact List.forall_mem_singleton.2 (.text "0.1.0")

theorem expect_ping :
    expectDocument "/api/1.0/ping" (.object [("ok", .boolean true)])
      (answer client (getRequest server ["api", "1.0", "ping"])) = .ok () := by
  have asked : requestedPath (url server ["api", "1.0", "ping"]).target = "/api/1.0/ping" :=
    requestedPath_url server rfl rfl (by decide)
  refine expect_answer_of_deals (.ping rfl asked) ?_
  refine expectDocument_json (.object ?_) (.object ?_) (by decide +kernel)
  · exact List.forall_mem_singleton.2 (.boolean true)
  · exact List.forall_mem_singleton.2 (.boolean true)

theorem expect_unknown :
    expectNotFound (answer client (getRequest server ["api", "1.0", "unknown"])) = .ok () := by
  have asked : requestedPath (url server ["api", "1.0", "unknown"]).target =
      "/api/1.0/unknown" :=
    requestedPath_url server rfl rfl (by decide)
  have unknown : ("GET", "/api/1.0/unknown") ∉ knownPairs := by decide
  refine expect_answer_of_deals (.notFound ?_ ?_) ?_
  · exact asked ▸ unknown
  · exact fun head => absurd (show "GET" = "HEAD" from head.1) (by decide)
  · simp [expectNotFound, Response.plain, ensure]

theorem expect_clientless :
    ∀ check ∈ clientless server, check.2 (answer client check.1) = .ok () := by
  simp only [clientless, List.forall_mem_cons]
  exact ⟨expect_version server client, expect_ping server client, expect_unknown server client,
    List.forall_mem_nil _⟩

theorem requestedPath_check (key : String) :
    requestedPath (checkRequest server key).url.target = "/api/1.0/check_flag" :=
  requestedPath_url server rfl rfl (by decide)

/-- The check is a question about a flag, put to the client. -/
theorem deals_check {key : String} (small : (checkBody key).length ≤ 1048576) (client : γ) :
    let check : CheckRequest := ⟨"boolean", key, ⟨"test", "test"⟩⟩
    Deals (some client) "POST" (requestedPath (checkRequest server key).url.target) (checkBody key)
      [⟨.boolean, key, check.bareTarget⟩]
      (.json 200 (.ok (CheckAnswer.format.encode ⟨key, check.valueFrom client .boolean⟩))) := by
  have known : ("boolean", Flag.Kind.boolean) ∈ Flag.Kind.names := by decide
  exact .checked rfl (requestedPath_check server key) (heldBy_checkBody small) rfl known

/-- A client answers the check, whatever it says of the flag. -/
theorem expect_check {key : String} (small : (checkBody key).length ≤ 1048576) (client : γ) :
    expectFlag key (answer (some client) (checkRequest server key)) = .ok () :=
  expect_answer_of_deals (deals_check server small client) (expectFlag_json key _)

end Answers

variable {server : Url} (web : server.isWeb = true)
include web

theorem sendable_getRequest (path : List String) :
    Connector.Sendable (getRequest server path) :=
  Bool.and_eq_true_iff.2 ⟨web, rfl⟩

theorem sendable_checkRequest (key : String) : Connector.Sendable (checkRequest server key) := by
  have texts : [("content-type", "application/json")].all
      (fun entry => Connector.isHeaderText entry.2) = true := by decide
  exact Bool.and_eq_true_iff.2 ⟨web, texts⟩

theorem sendable_clientless : ∀ check ∈ clientless server, Connector.Sendable check.1 := by
  simp [clientless, sendable_getRequest web]

theorem passes_checks {key : String} (small : (checkBody key).length ≤ 1048576) :
    ∀ check ∈ checks server key, Passes γ check := by
  simp only [checks_eq, List.forall_mem_append, List.forall_mem_singleton]
  constructor
  · intro check mem
    exact ⟨sendable_clientless web check mem,
      fun client => expect_clientless server (some client) check mem⟩
  · exact ⟨sendable_checkRequest web key, expect_check server small⟩

/-- Whatever clients the server has, one after the other, a test is passed or wants an answer. -/
theorem cases_of_ends {key : String} (small : (checkBody key).length ≤ 1048576)
    {exchanges : List Exchange} (attended : Attended γ exchanges) {result : Except Error Unit}
    (ends : (selfTest server key).Ends exchanges result) :
    (result = .ok () ∧ Answered γ exchanges) ∨
      (result = .error (.network .unanswered) ∧ ∃ e ∈ exchanges, e.reply = .broken) :=
  cases_of_pass_ends (passes_checks web small) attended ends

theorem against_inTime {key : String} (small : (checkBody key).length ≤ 1048576)
    (takes : Request → Nat) (client : γ) :
    (selfTest server key).against (inTime takes (replying (some client))) =
      if ∀ check ∈ checks server key, takes check.1 ≤ patience then .ok ()
      else .error (.network .unanswered) :=
  against_pass_inTime (passes_checks web small) takes client

/-- A server that cannot be reached is not tested. -/
theorem against_broken (key : String) :
    (selfTest server key).against (fun _ => .broken) = .error (.network .unanswered) := by
  rw [selfTest, checks, pass_cons (sendable_getRequest web _)]
  rfl

end SelfTest

end FlagHost

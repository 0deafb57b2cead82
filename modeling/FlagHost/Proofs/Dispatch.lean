import FlagHost.Client.Stub
import FlagHost.Proofs.Outcome
import FlagHost.Proofs.Spans
import FlagHost.Server.Router

/-!
# What becomes of a request

`Deals client method path body questions answer` says that a request is answered so, and that these
questions are put to the client on the way. Main statement: it holds of every request and of what
the server makes of it, and of nothing else. So three pairs of a method and a path have an answer of
their own, a check of a flag that fails is answered with its first failure, and only a check that
succeeds asks the client, once.
-/

namespace FlagHost

/-- The methods and paths that the server knows. -/
def knownPairs : List (String × String) :=
  [("GET", "/sdk/version"), ("GET", "/api/1.0/ping"), ("POST", "/api/1.0/check_flag")]

/-- The paths of what can be got. -/
def gettable : List String := ["/sdk/version", "/api/1.0/ping"]

namespace CheckRequest

/-- The body is small enough, and holds the request. -/
def HeldBy (request : CheckRequest) (body : Bytes) : Prop :=
  body.length ≤ 1048576 ∧ format.ofBytes body = .ok request

/-- The first failure of a check that does not succeed, as it is told. -/
inductive FirstFailure (hasClient : Bool) (body : Bytes) : String → Prop where
  | tooLarge (large : 1048576 < body.length) :
      FirstFailure hasClient body "length limit exceeded"
  | document {defect : Json.Defect} (small : body.length ≤ 1048576)
      (unread : format.ofBytes body = .error defect) : FirstFailure hasClient body defect.message
  | clientless {request : CheckRequest} (held : request.HeldBy body) (absent : hasClient = false) :
      FirstFailure hasClient body "client is not available"
  | unknownKind {request : CheckRequest} (held : request.HeldBy body) (present : hasClient = true)
      (unknown : ∀ kind, (request.kind, kind) ∉ Flag.Kind.names) :
      FirstFailure hasClient body ("Unknown kind: '" ++ request.kind ++ "'")

/-- What flags are evaluated for: nothing is known of it but an identifier and a name. -/
def bareTarget (request : CheckRequest) : Target where
  identifier := request.target.identifier
  name := request.target.name
  anonymous := false
  attributes := []
  isPrivate := false

/-- What a check that succeeds is answered with, for a client and a kind. -/
def valueFrom {γ : Type} [FlagClient γ] (request : CheckRequest) (client : γ)
    (kind : Flag.Kind) : String :=
  kind.write (FlagClient.value client kind request.key request.bareTarget kind.absent)

end CheckRequest

/-- The answer to a request, and the questions to the client on the way. -/
inductive Deals {γ : Type} [FlagClient γ] (client : Option γ) (method path : String)
    (body : Bytes) : List Question → Response → Prop where
  | version (get : method = "GET") (asked : path = "/sdk/version") :
      Deals client method path body []
        (.json 200 (.ok (.object [("version", .text "0.1.0")])))
  | ping (get : method = "GET") (asked : path = "/api/1.0/ping") :
      Deals client method path body [] (.json 200 (.ok (.object [("ok", .boolean true)])))
  | checked {request : CheckRequest} {c : γ} {kind : Flag.Kind} (post : method = "POST")
      (asked : path = "/api/1.0/check_flag") (held : request.HeldBy body)
      (present : client = some c) (known : (request.kind, kind) ∈ Flag.Kind.names) :
      Deals client method path body [⟨kind, request.key, request.bareTarget⟩]
        (.json 200 (.ok (.object
          [("flag_key", .text request.key), ("flag_value", .text (request.valueFrom c kind))])))
  | failed {failure : String} (post : method = "POST") (asked : path = "/api/1.0/check_flag")
      (fails : CheckRequest.FirstFailure client.isSome body failure) :
      Deals client method path body [] (.plain 500 failure)
  | bodiless (head : method = "HEAD") (asked : path ∈ gettable) :
      Deals client method path body [] { Response.plain 404 "Not found" with body := [] }
  | notFound (other : (method, path) ∉ knownPairs)
      (bodied : ¬ (method = "HEAD" ∧ path ∈ gettable)) :
      Deals client method path body [] (.plain 404 "Not found")

/-! ## Checks -/

theorem Flag.Kind.named_eq_ok_iff (name : String) (kind : Flag.Kind) :
    named name = .ok kind ↔ (name, kind) ∈ names := by
  unfold named
  constructor
  · intro found
    split at found
    · next looked =>
      obtain rfl := Except.ok.inj found
      obtain ⟨before, after, split, -⟩ := List.lookup_eq_some_iff.1 looked
      rw [split]
      exact List.mem_append_right before List.mem_cons_self
    · exact nomatch found
  · intro mem
    simp only [names, List.mem_cons, Prod.mk.injEq, List.not_mem_nil, or_false] at mem
    rcases mem with ⟨rfl, rfl⟩ | ⟨rfl, rfl⟩ | ⟨rfl, rfl⟩ | ⟨rfl, rfl⟩ <;> rfl

theorem Flag.Kind.named_eq_error {name : String} (unknown : ∀ kind, (name, kind) ∉ names) :
    named name = .error (.unknownKind name) := by
  cases found : named name with
  | ok kind => exact absurd ((named_eq_ok_iff name kind).1 found) (unknown kind)
  | error fault =>
    unfold named at found
    split at found
    · exact nomatch found
    · exact found.symm

namespace CheckRequest

/-- What is asked where the kind is known. -/
theorem question_of_mem {request : CheckRequest} {kind : Flag.Kind}
    (known : (request.kind, kind) ∈ Flag.Kind.names) :
    request.question = .ok ⟨kind, request.key, request.bareTarget⟩ := by
  unfold question
  rw [(Flag.Kind.named_eq_ok_iff _ kind).2 known]
  rfl

theorem question_of_unknown {request : CheckRequest}
    (unknown : ∀ kind, (request.kind, kind) ∉ Flag.Kind.names) :
    request.question = .error (.unknownKind request.kind) := by
  unfold question
  rw [Flag.Kind.named_eq_error unknown]
  rfl

theorem ofBody_of_small {body : Bytes} (small : body.length ≤ 1048576) :
    ofBody body = (format.ofBytes body).mapError .document := if_neg (Nat.not_lt.2 small)

theorem HeldBy.ofBody_eq {request : CheckRequest} {body : Bytes} (h : request.HeldBy body) :
    ofBody body = .ok request := by
  rw [ofBody_of_small h.1, h.2]
  rfl

/-- A check that can be made is made by one question. -/
theorem checkFlag_of_known {request : CheckRequest} {body : Bytes} {kind : Flag.Kind}
    (held : request.HeldBy body) (known : (request.kind, kind) ∈ Flag.Kind.names) :
    checkFlag true body =
      .ask ⟨kind, request.key, request.bareTarget⟩ fun value =>
        .done (.ok ⟨request.key, kind.write value⟩) := by
  simp [checkFlag, held.ofBody_eq, question_of_mem known]

theorem FirstFailure.checkFlag_eq {hasClient : Bool} {body : Bytes} {failure : String}
    (h : FirstFailure hasClient body failure) :
    ∃ fault, checkFlag hasClient body = .done (.error fault) ∧ fault.message = failure := by
  cases h with
  | tooLarge large =>
    have unread : ofBody body = .error .tooLarge := if_pos large
    exact ⟨.tooLarge, by rw [checkFlag, unread], rfl⟩
  | @document defect small unread =>
    have unread : ofBody body = .error (.document defect) := by
      rw [ofBody_of_small small, unread]
      rfl
    exact ⟨.document defect, by rw [checkFlag, unread], rfl⟩
  | clientless held absent =>
    exact ⟨.clientUnavailable, by simp [checkFlag, held.ofBody_eq, absent], rfl⟩
  | @unknownKind request held present unknown =>
    refine ⟨.unknownKind request.kind, ?_, rfl⟩
    simp [checkFlag, held.ofBody_eq, present, question_of_unknown unknown]

/-- A check fails, or it can be made. -/
theorem fails_or_known (hasClient : Bool) (body : Bytes) :
    (∃ failure, FirstFailure hasClient body failure) ∨
      ∃ request kind, HeldBy request body ∧ hasClient = true ∧
        (request.kind, kind) ∈ Flag.Kind.names := by
  by_cases large : 1048576 < body.length
  · exact .inl ⟨_, .tooLarge large⟩
  have small := Nat.not_lt.1 large
  cases read : format.ofBytes body with
  | error defect => exact .inl ⟨_, .document small read⟩
  | ok request =>
    have held : request.HeldBy body := ⟨small, read⟩
    cases hasClient with
    | false => exact .inl ⟨_, .clientless held rfl⟩
    | true =>
      by_cases known : ∃ kind, (request.kind, kind) ∈ Flag.Kind.names
      · obtain ⟨kind, known⟩ := known
        exact .inr ⟨request, kind, held, rfl, known⟩
      · exact .inl ⟨_, .unknownKind held rfl (not_exists.1 known)⟩

/-- A check that can be made does not fail. -/
theorem FirstFailure.not_known {body : Bytes} {failure : String} {request : CheckRequest}
    {kind : Flag.Kind} (h : FirstFailure true body failure) (held : request.HeldBy body) :
    (request.kind, kind) ∉ Flag.Kind.names := by
  intro known
  obtain ⟨fault, fails, -⟩ := h.checkFlag_eq
  exact nomatch fails.symm.trans (checkFlag_of_known held known)

end CheckRequest

/-! ## Requests -/

/-- The path of a route. -/
def Route.path : Route → String
  | .version => "/sdk/version"
  | .ping => "/api/1.0/ping"
  | .checkFlag => "/api/1.0/check_flag"

theorem Route.ofPath?_eq_some_iff (path : String) (route : Route) :
    ofPath? path = some route ↔ path = route.path := by
  constructor
  · intro found
    unfold ofPath? at found
    split at found
    · cases found
      rfl
    · cases found
      rfl
    · cases found
      rfl
    · exact nomatch found
  · rintro rfl
    cases route <;> rfl

theorem mem_knownPairs_iff (method path : String) :
    (method, path) ∈ knownPairs ↔ ∃ route : Route, path = route.path ∧ method = route.method := by
  constructor
  · intro mem
    simp only [knownPairs, List.mem_cons, Prod.mk.injEq, List.not_mem_nil, or_false] at mem
    rcases mem with ⟨rfl, rfl⟩ | ⟨rfl, rfl⟩ | ⟨rfl, rfl⟩
    · exact ⟨.version, rfl, rfl⟩
    · exact ⟨.ping, rfl, rfl⟩
    · exact ⟨.checkFlag, rfl, rfl⟩
  · rintro ⟨route, rfl, rfl⟩
    cases route <;> simp [knownPairs, Route.path, Route.method]

theorem mem_gettable_iff (path : String) :
    path ∈ gettable ↔ ∃ route : Route, path = route.path ∧ route.method = "GET" := by
  constructor
  · intro mem
    simp only [gettable, List.mem_cons, List.not_mem_nil, or_false] at mem
    rcases mem with rfl | rfl
    · exact ⟨.version, rfl, rfl⟩
    · exact ⟨.ping, rfl, rfl⟩
  · rintro ⟨route, rfl, get⟩
    cases route with
    | version => simp [gettable, Route.path]
    | ping => simp [gettable, Route.path]
    | checkFlag => exact absurd get (by decide)

variable {γ : Type} [FlagClient γ]

theorem deals_handle (client : Option γ) (method asked : String) (body : Bytes) :
    Deals client method (requestedPath asked) body
      ((handle client.isSome method asked body).questions (Question.answer client))
      (respond client method asked body) := by
  unfold respond handle
  cases found : Route.ofPath? (requestedPath asked) with
  | none =>
    have other (route : Route) : requestedPath asked ≠ route.path := fun same =>
      nomatch found.symm.trans ((Route.ofPath?_eq_some_iff _ route).2 same)
    refine .notFound (fun known => ?_) fun ⟨_, get⟩ => ?_
    · obtain ⟨route, same, -⟩ := (mem_knownPairs_iff _ _).1 known
      exact other route same
    · obtain ⟨route, same, -⟩ := (mem_gettable_iff _).1 get
      exact other route same
  | some route =>
    have at_path := (Route.ofPath?_eq_some_iff _ route).1 found
    dsimp only
    by_cases takes : method = route.method
    · rw [if_pos takes, Inquiry.questions_map, Inquiry.result_map]
      cases route with
      | version => exact .version takes at_path
      | ping => exact .ping takes at_path
      | checkFlag =>
        unfold Route.document
        rw [Inquiry.questions_map, Inquiry.result_map]
        rcases CheckRequest.fails_or_known client.isSome body with ⟨failure, fails⟩ | found
        · obtain ⟨fault, ends, rfl⟩ := fails.checkFlag_eq
          rw [ends]
          exact .failed takes at_path fails
        · obtain ⟨request, kind, held, present, known⟩ := found
          obtain ⟨c, rfl⟩ := Option.isSome_iff_exists.1 present
          rw [present, CheckRequest.checkFlag_of_known held known]
          exact .checked takes at_path held rfl known
    · rw [if_neg takes]
      by_cases head : method = "HEAD" ∧ route.method = "GET"
      · rw [if_pos head]
        exact .bodiless head.1 ((mem_gettable_iff _).2 ⟨route, at_path, head.2⟩)
      · rw [if_neg head]
        have only {other : Route} (same : requestedPath asked = other.path) : other = route := by
          have := (Route.ofPath?_eq_some_iff _ other).2 same
          exact Option.some.inj (this.symm.trans found)
        refine .notFound (fun known => ?_) fun ⟨is_head, get⟩ => ?_
        · obtain ⟨other, same, taken⟩ := (mem_knownPairs_iff _ _).1 known
          exact takes (only same ▸ taken)
        · obtain ⟨other, same, get⟩ := (mem_gettable_iff _).1 get
          exact head ⟨is_head, only same ▸ get⟩

theorem handle_of_path {route : Route} {asked : String} (same : requestedPath asked = route.path)
    (hasClient : Bool) (method : String) (body : Bytes) :
    handle hasClient method asked body =
      if method = route.method then (route.document hasClient body).map (.json 200)
      else if method = "HEAD" ∧ route.method = "GET" then
        .done { Response.notFound with body := [] }
      else .done .notFound := by
  unfold handle
  rw [(Route.ofPath?_eq_some_iff _ route).2 same]

theorem handle_of_taken {route : Route} {asked : String} (same : requestedPath asked = route.path)
    (hasClient : Bool) {method : String} (takes : method = route.method) (body : Bytes) :
    handle hasClient method asked body = (route.document hasClient body).map (.json 200) := by
  rw [handle_of_path same, if_pos takes]

/-- No request is dealt with in two ways. -/
theorem Deals.eq_handle {client : Option γ} {method asked : String} {body : Bytes}
    {questions : List Question} {answer : Response}
    (h : Deals client method (requestedPath asked) body questions answer) :
    (handle client.isSome method asked body).questions (Question.answer client) = questions ∧
      respond client method asked body = answer := by
  unfold respond
  cases h with
  | version get at_path =>
    have same : requestedPath asked = Route.version.path := at_path
    rw [handle_of_taken same _ get]
    exact ⟨rfl, rfl⟩
  | ping get at_path =>
    have same : requestedPath asked = Route.ping.path := at_path
    rw [handle_of_taken same _ get]
    exact ⟨rfl, rfl⟩
  | @checked request c kind post at_path held present known =>
    have same : requestedPath asked = Route.checkFlag.path := at_path
    rw [handle_of_taken same _ post, Route.document,
      Inquiry.questions_map, Inquiry.result_map, Inquiry.questions_map, Inquiry.result_map]
    subst present
    rw [Option.isSome_some, CheckRequest.checkFlag_of_known held known]
    exact ⟨rfl, rfl⟩
  | failed post at_path fails =>
    have same : requestedPath asked = Route.checkFlag.path := at_path
    rw [handle_of_taken same _ post, Route.document,
      Inquiry.questions_map, Inquiry.result_map, Inquiry.questions_map, Inquiry.result_map]
    obtain ⟨fault, ends, rfl⟩ := fails.checkFlag_eq
    rw [ends]
    exact ⟨rfl, rfl⟩
  | bodiless head get =>
    obtain ⟨route, same, get⟩ := (mem_gettable_iff _).1 get
    have other : method ≠ route.method := by
      rw [head, get]
      decide
    rw [handle_of_path same, if_neg other, if_pos ⟨head, get⟩]
    exact ⟨rfl, rfl⟩
  | notFound other bodied =>
    cases found : Route.ofPath? (requestedPath asked) with
    | none =>
      unfold handle
      rw [found]
      exact ⟨rfl, rfl⟩
    | some route =>
      have same := (Route.ofPath?_eq_some_iff _ route).1 found
      have untaken : method ≠ route.method := fun takes =>
        other ((mem_knownPairs_iff _ _).2 ⟨route, same, takes⟩)
      have ungot : ¬ (method = "HEAD" ∧ route.method = "GET") := fun ⟨head, get⟩ =>
        bodied ⟨head, (mem_gettable_iff _).2 ⟨route, same, get⟩⟩
      rw [handle_of_path same, if_neg untaken, if_neg ungot]
      exact ⟨rfl, rfl⟩

/-- A path, which begins with a slash and ends in front of a query or a fragment. -/
def IsPath (path : List Char) : Prop := path.head? = some '/' ∧ ∀ c ∈ path, c ≠ '?' ∧ c ≠ '#'

/-- A query with its mark, or nothing. -/
def IsQuery (query : List Char) : Prop := query = [] ∨ query.head? = some '?'

/-- A path is asked for as it stands, whatever query follows. -/
theorem requestedPath_append {path query : List Char} (isPath : IsPath path)
    (isQuery : IsQuery query) :
    requestedPath (String.ofList (path ++ query)) = String.ofList path := by
  obtain ⟨first, whole⟩ := isPath
  have taken : (path ++ query).takeWhile (fun c => c ≠ '?' && c ≠ '#') = path := by
    refine takeWhile_append_of_stop (by simpa using whole) fun c mem => ?_
    rcases isQuery with rfl | marked
    · exact nomatch mem
    · obtain rfl := Option.some.inj (marked.symm.trans mem)
      rfl
  unfold requestedPath
  rw [String.toList_ofList, taken]
  cases path with
  | nil => exact nomatch first
  | cons c path =>
    obtain rfl := Option.some.inj first
    rfl

/-- Which requests succeed. -/
def Succeeds (client : Option γ) (method path : String) (body : Bytes) : Prop :=
  (method, path) ∈ [("GET", "/sdk/version"), ("GET", "/api/1.0/ping")] ∨
    (method, path) = ("POST", "/api/1.0/check_flag") ∧ ∃ request kind,
      CheckRequest.HeldBy request body ∧ client.isSome = true ∧
        (request.kind, kind) ∈ Flag.Kind.names

theorem Deals.status_eq_iff {client : Option γ} {method path : String} {body : Bytes}
    {questions : List Question} {answer : Response}
    (h : Deals client method path body questions answer) :
    answer.status = 200 ↔ Succeeds client method path body := by
  cases h with
  | version get asked => exact iff_of_true rfl (.inl (by simp [get, asked]))
  | ping get asked => exact iff_of_true rfl (.inl (by simp [get, asked]))
  | checked post asked held present known =>
    subst post asked present
    exact iff_of_true rfl (.inr ⟨rfl, _, _, held, rfl, known⟩)
  | failed post asked fails =>
    subst post asked
    refine iff_of_false (by simp [Response.plain]) ?_
    rintro (got | ⟨-, request, kind, held, isSome, known⟩)
    · simp at got
    · rw [isSome] at fails
      exact fails.not_known held known
  | bodiless head asked =>
    subst head
    refine iff_of_false (by simp [Response.plain]) ?_
    rintro (got | ⟨post, -⟩)
    · simp at got
    · simp at post
  | notFound other =>
    refine iff_of_false (by simp [Response.plain]) ?_
    rintro (got | ⟨post, -⟩)
    · refine other ?_
      simp only [List.mem_cons, List.not_mem_nil, or_false, knownPairs] at got ⊢
      exact got.imp_right .inl
    · simp [knownPairs, post] at other

/-- What is known of the answer to a request for a path. -/
structure Classified (client : Option γ) (method asked path : String) (body : Bytes) : Prop where
  status_eq_iff :
    (respond client method asked body).status = 200 ↔ Succeeds client method path body
  /-- There is one answer, and there is one way to it. -/
  deals_iff : ∀ questions answer,
    Deals client method path body questions answer ↔
      (handle client.isSome method asked body).questions (Question.answer client) = questions ∧
        respond client method asked body = answer

/-- Every request for a path is answered as it says, and so is every other one for the path that is
read out of it. -/
theorem respond_classified (client : Option γ) (method : String) (body : Bytes) :
    (∀ asked, Classified client method asked (requestedPath asked) body) ∧
      ∀ path query, IsPath path → IsQuery query →
        Classified client method (String.ofList (path ++ query)) (String.ofList path) body := by
  have classified (asked : String) :
      Classified client method asked (requestedPath asked) body := by
    refine ⟨(deals_handle client method asked body).status_eq_iff, fun questions answer => ?_⟩
    constructor
    · exact Deals.eq_handle
    · rintro ⟨rfl, rfl⟩
      exact deals_handle client method asked body
  refine ⟨classified, fun path query isPath isQuery => ?_⟩
  have found := classified (String.ofList (path ++ query))
  rwa [requestedPath_append isPath isQuery] at found

/-- The answer to a `HEAD` request has a body where the path cannot be got. -/
theorem respond_head_unknown :
    let answer := respond (none : Option StubClient) "HEAD" "/api/1.0/unknown" []
    answer.status = 404 ∧ answer.body = Utf8.ofText "Not found" ∧ answer.body ≠ [] := by
  decide +kernel

end FlagHost

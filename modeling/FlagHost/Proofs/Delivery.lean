import FlagHost.Client.Basic
import FlagHost.Proofs.Codecs
import FlagHost.Proofs.Dispatch

/-!
# Values as they are delivered

A check of a flag is answered with a document that holds the value of the flag as a text. Main
statement: whoever reads the answer gets the text that a flag of texts serves, character by
character, and for a flag of documents a text that holds the same value as the one that is served.
If a flag serves that text in turn, it is delivered unchanged.
-/

namespace FlagHost

open Json (Format SameValue Integral)

theorem CheckAnswer.lawful_format (n : Nat) : CheckAnswer.format.Lawful (n + 1) := by
  refine (Format.lawful_record _ (by decide) ?_).map _ _ fun _ => rfl
  exact ⟨Format.lawful_text n, Format.lawful_text n, trivial⟩

/-- The answer is read as it was meant. -/
theorem CheckAnswer.ofBytes_toBytes (answer : CheckAnswer) :
    CheckAnswer.format.ofBytes (CheckAnswer.format.encode answer).toBytes = .ok answer :=
  (lawful_format 126).ofBytes_encode answer

/-- The configuration of the client serves the text to the target. -/
def Client.Serves (client : Client) (kind : Flag.Kind) (key : String) (target : Target)
    (text : String) : Prop :=
  ∃ configuration variation, client.store.snapshot = some configuration ∧
    configuration.variation? key target kind = some variation ∧ variation.value = text

/-- The check succeeds, and this is what a driver reads in the body. -/
def Client.Delivers (client : Client) (body : Bytes) (answer : CheckAnswer) : Prop :=
  let response := respond (some client) "POST" "/api/1.0/check_flag" body
  response.status = 200 ∧ CheckAnswer.format.ofBytes response.body = .ok answer

/-- The text holds the value of the document, and is delivered unchanged wherever it is served. -/
structure Stands (text : String) (v : Json) : Prop where
  holds : ∃ w, Json.ofText text = .ok w ∧ SameValue w v
  unchanged : ∀ (client : Client) body request, CheckRequest.HeldBy request body →
    request.kind = "json" → client.Serves .json request.key request.bareTarget text →
      client.Delivers body ⟨request.key, text⟩

variable {client : Client} {body : Bytes} {request : CheckRequest} {text : String}

theorem Client.Serves.value_eq {kind : Flag.Kind} {key : String} {target : Target}
    (h : client.Serves kind key target text) {value : kind.Value}
    (read : kind.read? text = some value) (default : kind.Value) :
    FlagClient.value client kind key target default = value := by
  obtain ⟨configuration, variation, found, served, rfl⟩ := h
  change client.store.value kind key target default = value
  rw [Store.value]
  simp [found, served, read]

/-- A check of a known kind delivers the text of the value. -/
theorem Client.delivers_valueFrom {kind : Flag.Kind} (client : Client) (held : request.HeldBy body)
    (known : (request.kind, kind) ∈ Flag.Kind.names) :
    client.Delivers body ⟨request.key, request.valueFrom client kind⟩ := by
  have dealt : Deals (some client) "POST" (requestedPath "/api/1.0/check_flag") body _ _ :=
    .checked rfl (by decide) held rfl known
  rw [Client.Delivers, dealt.eq_handle.2]
  exact ⟨rfl, CheckAnswer.ofBytes_toBytes ⟨request.key, request.valueFrom client kind⟩⟩

/-- What is served is delivered as the text of its value. -/
theorem Client.Serves.delivers {kind : Flag.Kind}
    (h : client.Serves kind request.key request.bareTarget text) (held : request.HeldBy body)
    (known : (request.kind, kind) ∈ Flag.Kind.names) {value : kind.Value}
    (read : kind.read? text = some value) :
    client.Delivers body ⟨request.key, kind.write value⟩ := by
  have delivered := client.delivers_valueFrom held known
  rwa [CheckRequest.valueFrom, h.value_eq read] at delivered

theorem Client.Serves.delivers_document
    (h : client.Serves .json request.key request.bareTarget text) (held : request.HeldBy body)
    (named : request.kind = "json") {v : Json} (read : Json.ofText text = .ok v) :
    client.Delivers body ⟨request.key, v.compact⟩ := by
  have known : (request.kind, Flag.Kind.json) ∈ Flag.Kind.names := by simp [named, Flag.Kind.names]
  have value : Flag.Kind.read? .json text = some v := congrArg Except.toOption read
  exact h.delivers held known value

theorem stands_compact {v : Json} (integral : v.Integral) (read : Json.ofText text = .ok v) :
    Stands v.compact v := by
  have compact_read := integral.ofText_compact read
  refine ⟨⟨v.canonical, compact_read, Json.sameValue_canonical v⟩, ?_⟩
  intro client body request held named serves
  have delivered := serves.delivers_document held named compact_read
  rwa [Json.compact_canonical] at delivered

/-- A check delivers the text that is served for a flag of texts, and for a flag of documents a text
that stands for the document. -/
theorem delivers_of_held (held : request.HeldBy body) :
    (request.kind = "string" → client.Serves .string request.key request.bareTarget text →
      client.Delivers body ⟨request.key, text⟩) ∧
    ∀ v, request.kind = "json" → client.Serves .json request.key request.bareTarget text →
      Json.ofText text = .ok v → Integral v →
        ∃ value, client.Delivers body ⟨request.key, value⟩ ∧ Stands value v := by
  refine ⟨fun named serves => ?_, fun v named serves read integral => ?_⟩
  · have known : (request.kind, Flag.Kind.string) ∈ Flag.Kind.names := by
      simp [named, Flag.Kind.names]
    exact serves.delivers held known rfl
  · exact ⟨v.compact, serves.delivers_document held named read, stands_compact integral read⟩

/-- A flag that is off, with one variation. -/
def steady (key : String) (kind : Flag.Kind) (value : String) : Flag where
  key := key
  kind := kind
  state := .off
  variations := [⟨"only", value, none⟩]
  offVariation := "only"
  defaultServe := {}

/-- A client with a flag of texts and one of documents, which has a name twice. -/
def steadyClient : Client where
  polling := {
    poller := .ended
    store := ⟨some {
      flags :=
        [("greeting", steady "greeting" .string "\"\\\n"),
          ("limits", steady "limits" .json "\x7b\"b\":1,\"a\":[-2],\"b\":null\x7d")] }⟩ }

/-- A request for a flag. -/
def steadyBody (kind key : String) : Bytes :=
  Utf8.ofText ("[\"" ++ kind ++ "\",\"" ++ key ++ "\",[\"ann\",\"\"]]")

theorem steadyBody_greeting :
    steadyBody "string" "greeting" =
      [91, 34, 115, 116, 114, 105, 110, 103, 34, 44, 34, 103, 114, 101, 101, 116, 105, 110, 103, 34,
      44, 91, 34, 97, 110, 110, 34, 44, 34, 34, 93, 93] := by
  decide +kernel

theorem steadyBody_limits :
    steadyBody "json" "limits" =
      [91, 34, 106, 115, 111, 110, 34, 44, 34, 108, 105, 109, 105, 116, 115, 34, 44, 91, 34, 97,
      110, 110, 34, 44, 34, 34, 93, 93] := by
  decide +kernel

theorem ofText_limits :
    Json.ofText "\x7b\"b\":1,\"a\":[-2],\"b\":null\x7d" =
      .ok (.object [("b", .integer 1), ("a", .list [.integer (-2)]), ("b", .null)]) := by
  have bytes : Utf8.ofText "\x7b\"b\":1,\"a\":[-2],\"b\":null\x7d" =
      [123, 34, 98, 34, 58, 49, 44, 34, 97, 34, 58, 91, 45, 50, 93, 44, 34, 98, 34, 58, 110, 117,
      108, 108, 125] := by
    decide +kernel
  rw [Json.ofText, bytes]
  rfl

theorem delivers_of_held_steady :
    steadyClient.Delivers (steadyBody "string" "greeting") ⟨"greeting", "\"\\\n"⟩ ∧
      ∃ value, steadyClient.Delivers (steadyBody "json" "limits") ⟨"limits", value⟩ ∧
        Stands value (.object [("b", .integer 1), ("a", .list [.integer (-2)]), ("b", .null)]) := by
  have greeting_held : CheckRequest.HeldBy ⟨"string", "greeting", ⟨"ann", ""⟩⟩
      (steadyBody "string" "greeting") := by
    rw [steadyBody_greeting]
    exact ⟨by decide, by rfl⟩
  have limits_held : CheckRequest.HeldBy ⟨"json", "limits", ⟨"ann", ""⟩⟩
      (steadyBody "json" "limits") := by
    rw [steadyBody_limits]
    exact ⟨by decide, by rfl⟩
  have greeting_serves (target : Target) :
      steadyClient.Serves .string "greeting" target "\"\\\n" := ⟨_, _, rfl, rfl, rfl⟩
  have limits_serves (target : Target) :
      steadyClient.Serves .json "limits" target "\x7b\"b\":1,\"a\":[-2],\"b\":null\x7d" :=
    ⟨_, _, rfl, rfl, rfl⟩
  have integral : Integral
      (.object [("b", .integer 1), ("a", .list [.integer (-2)]), ("b", .null)]) := by
    refine .object ?_
    simp only [List.forall_mem_cons]
    refine ⟨.integer (by decide) (by decide), .list ?_, .null, List.forall_mem_nil _⟩
    exact List.forall_mem_singleton.2 (.integer (by decide) (by decide))
  constructor
  · exact (delivers_of_held greeting_held).1 rfl (greeting_serves _)
  · exact (delivers_of_held limits_held).2 _ rfl (limits_serves _) ofText_limits integral

end FlagHost

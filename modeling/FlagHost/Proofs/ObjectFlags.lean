import FlagHost.Proofs.Delivery
import FlagHost.Proofs.Serving

/-!
# Flags of documents

The value of a flag of documents is asked for with an object as the default. Main statement: the
value is the document that the text of the served variation holds, of whatever shape it is, and the
default if the text holds none. So an object is answered, and the text of an object is delivered, if
and only if no document of another shape is served.
-/

namespace FlagHost

open Json (IsObject Finite Written WritesObject)

/-! ## Served documents -/

/-- The configuration of the client serves a text that holds the document. -/
def Client.ServesDocument (client : Client) (key : String) (target : Target) (v : Json) : Prop :=
  ∃ text, client.Serves .json key target text ∧ Json.ofText text = .ok v

/-- Whatever document the configuration of the client holds for a flag of documents is an object. -/
def Client.HoldsObjects (client : Client) : Prop :=
  ∀ configuration key flag, client.store.snapshot = some configuration →
    configuration.flags.find? key = some flag → flag.kind = .json →
      ∀ variation ∈ flag.variations, ∀ v, Json.ofText variation.value = .ok v → v.IsObject

variable {client : Client} {key : String} {target : Target}

theorem Client.ServesDocument.value_eq {v : Json} (h : client.ServesDocument key target v)
    (default : Json) : FlagClient.value client .json key target default = v := by
  obtain ⟨text, serves, read⟩ := h
  have value : Flag.Kind.read? .json text = some v := congrArg Except.toOption read
  exact serves.value_eq value default

theorem Client.value_eq_default (nothing : ∀ v, ¬ client.ServesDocument key target v)
    (default : Json) : FlagClient.value client .json key target default = default := by
  change client.store.value .json key target default = default
  unfold Store.value
  dsimp only
  cases found : client.store.snapshot with
  | none => rfl
  | some configuration =>
    cases served : configuration.variation? key target .json with
    | none => simp [served]
    | some variation =>
      cases read : Json.ofText variation.value with
      | error fault => simp [served, Flag.Kind.read?, read, Except.toOption]
      | ok v => exact absurd ⟨_, ⟨_, _, found, served, rfl⟩, read⟩ (nothing v)

/-- The value is a document that is served, or it is the default and none is served. -/
theorem Client.value_cases (client : Client) (key : String) (target : Target) (default : Json) :
    client.ServesDocument key target (FlagClient.value client .json key target default) ∨
      (∀ v, ¬ client.ServesDocument key target v) ∧
        FlagClient.value client .json key target default = default := by
  by_cases some_document : ∃ v, client.ServesDocument key target v
  · obtain ⟨v, serves⟩ := some_document
    rw [serves.value_eq]
    exact .inl serves
  · have nothing := not_exists.1 some_document
    exact .inr ⟨nothing, Client.value_eq_default nothing default⟩

/-! ## Answers -/

/-- No document that is served under the key is anything but an object. -/
def Client.ServesObjects (client : Client) (key : String) (target : Target) : Prop :=
  ∀ v, client.ServesDocument key target v → v.IsObject

theorem Client.isObject_value_iff (client : Client) (key : String) (target : Target)
    (members : List (String × Json)) :
    IsObject (FlagClient.value client .json key target (.object members)) ↔
      client.ServesObjects key target := by
  rcases client.value_cases key target (.object members) with serves | ⟨nothing, same⟩
  · constructor
    · intro isObject v other
      rwa [← other.value_eq (.object members)]
    · exact fun objects => objects _ serves
  · rw [same]
    exact iff_of_true ⟨members, rfl⟩ fun v serves => absurd serves (nothing v)

theorem Client.finite_value (client : Client) (key : String) (target : Target) :
    Finite (FlagClient.value client .json key target (.object [])) := by
  rcases client.value_cases key target (.object []) with ⟨text, -, read⟩ | ⟨-, same⟩
  · exact Json.finite_of_ofText read
  · rw [same]
    exact .object fun _ mem => nomatch mem

theorem Client.servesObjects_of_holdsObjects (holds : client.HoldsObjects) (key : String)
    (target : Target) : client.ServesObjects key target := by
  rintro v ⟨text, ⟨configuration, variation, found, served, rfl⟩, read⟩
  obtain ⟨flag, known, same, mem⟩ := Evaluator.exists_of_evaluate served
  exact holds configuration key flag found known same variation mem v read

theorem Client.delivers_json (client : Client) {body : Bytes} {request : CheckRequest}
    (held : request.HeldBy body) (named : request.kind = "json") :
    client.Delivers body ⟨request.key, request.valueFrom client .json⟩ :=
  client.delivers_valueFrom held (by simp [named, Flag.Kind.names])

/-- The text that is delivered writes a document, and it writes an object if and only if the value
is one. -/
theorem Client.written_valueFrom (client : Client) (request : CheckRequest) :
    Written .value (Utf8.ofText (request.valueFrom client .json)) ∧
      (WritesObject (Utf8.ofText (request.valueFrom client .json)) ↔
        client.ServesObjects request.key request.bareTarget) := by
  have finite := client.finite_value request.key request.bareTarget
  refine ⟨finite.written_compact, ?_⟩
  exact finite.writesObject_compact_iff.trans (client.isObject_value_iff _ _ _)

/-- What is known of the values of flags of documents. -/
structure Client.TellsDocuments (client : Client) : Prop where
  /-- A document that is served is the value, of whatever shape it is. -/
  served : ∀ key target v default, client.ServesDocument key target v →
    FlagClient.value client .json key target default = v
  unserved : ∀ key target default, (∀ v, ¬ client.ServesDocument key target v) →
    FlagClient.value client .json key target default = default
  isObject_iff : ∀ key target members,
    IsObject (FlagClient.value client .json key target (.object members)) ↔
      client.ServesObjects key target
  delivered : ∀ body request, CheckRequest.HeldBy request body → request.kind = "json" →
    client.Delivers body ⟨request.key, request.valueFrom client .json⟩
  written : ∀ request : CheckRequest,
    Written .value (Utf8.ofText (request.valueFrom client .json)) ∧
      (WritesObject (Utf8.ofText (request.valueFrom client .json)) ↔
        client.ServesObjects request.key request.bareTarget)
  /-- Where the configuration holds nothing but objects, nothing else is answered. -/
  objects : client.HoldsObjects →
    (∀ key target members,
      IsObject (FlagClient.value client .json key target (.object members))) ∧
    ∀ body request, CheckRequest.HeldBy request body → request.kind = "json" →
      ∃ text, client.Delivers body ⟨request.key, text⟩ ∧ WritesObject (Utf8.ofText text)

theorem Client.tellsDocuments (client : Client) : client.TellsDocuments where
  served _ _ _ default serves := serves.value_eq default
  unserved _ _ default nothing := value_eq_default nothing default
  isObject_iff := client.isObject_value_iff
  delivered _ _ := client.delivers_json
  written := client.written_valueFrom
  objects holds := by
    have objects := servesObjects_of_holdsObjects holds
    refine ⟨fun key target members => ?_, fun body request held named => ?_⟩
    · exact (client.isObject_value_iff key target members).2 (objects key target)
    · have isObject_iff := (client.written_valueFrom request).2
      exact ⟨_, client.delivers_json held named, isObject_iff.2 (objects _ _)⟩

/-- A client with a flag of documents that serves a list. -/
def listClient : Client where
  polling := {
    poller := .ended
    store := ⟨some { flags := [("limits", steady "limits" .json "[1]")] }⟩ }

/-- A list is answered and delivered as it is served. -/
theorem listClient_tells_list :
    ¬ IsObject (FlagClient.value listClient .json "limits" { identifier := "ann" } (.object [])) ∧
      listClient.Delivers (steadyBody "json" "limits") ⟨"limits", "[1]"⟩ ∧
      ¬ WritesObject (Utf8.ofText "[1]") := by
  have bytes : Utf8.ofText "[1]" = [91, 49, 93] := by decide +kernel
  have read : Json.ofText "[1]" = .ok (.list [.integer 1]) := by
    rw [Json.ofText, bytes]
    rfl
  have serves (target : Target) : listClient.Serves .json "limits" target "[1]" :=
    ⟨_, _, rfl, rfl, rfl⟩
  have held : CheckRequest.HeldBy ⟨"json", "limits", ⟨"ann", ""⟩⟩ (steadyBody "json" "limits") := by
    rw [steadyBody_limits]
    exact ⟨by decide, by rfl⟩
  refine ⟨?_, (serves _).delivers_document held rfl read, ?_⟩
  · rw [Client.ServesDocument.value_eq ⟨_, serves _, read⟩]
    rintro ⟨members, same⟩
    cases same
  · rw [bytes]
    rintro ⟨rest, same, -⟩
    cases same

end FlagHost

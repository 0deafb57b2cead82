import FlagHost.Client.FlagClient
import FlagHost.Flag.Format
import FlagHost.Server.Response

/-!
# Checking a flag

A driver of tests asks for the value of a flag of some kind for a target, and gets it as a text.

What the server does with its client is an inquiry: it puts questions, and goes on with what the
client answers. Nothing is said about the client, so that it can be told which questions it gets.
-/

namespace FlagHost

open Json (Format)

structure CheckTarget where
  identifier : String
  name : String
deriving DecidableEq, Repr

def CheckTarget.format : Format CheckTarget :=
  (Format.record "struct TargetRequest" <|
    .cons (required "target_identifier" .text) <|
    .cons (required "target_name" .text) .nil).map
  (fun (identifier, name, ()) => { identifier, name })
  fun t => (t.identifier, t.name, ())

structure CheckRequest where
  kind : String
  key : String
  target : CheckTarget
deriving DecidableEq, Repr

def CheckRequest.format : Format CheckRequest :=
  (Format.record "struct FlagCheckRequest" <|
    .cons (required "flag_kind" .text) <|
    .cons (required "flag_key" .text) <|
    .cons (required "target" CheckTarget.format) .nil).map
  (fun (kind, key, target, ()) => { kind, key, target })
  fun r => (r.kind, r.key, r.target, ())

structure CheckAnswer where
  key : String
  value : String
deriving DecidableEq, Repr

def CheckAnswer.format : Format CheckAnswer :=
  (Format.record "struct FlagCheckResponse" <|
    .cons (required "flag_key" .text) <|
    .cons (required "flag_value" .text) .nil).map
  (fun (key, value, ()) => { key, value })
  fun a => (a.key, a.value, ())

def Flag.Kind.named (name : String) : Except RequestFault Flag.Kind :=
  match Flag.Kind.names.lookup name with
  | some kind => .ok kind
  | none => .error (.unknownKind name)

structure Question where
  kind : Flag.Kind
  key : String
  target : Target

namespace CheckRequest

def bodyLimit : Nat := 1024 * 1024

def ofBody (body : Bytes) : Except RequestFault CheckRequest :=
  if bodyLimit < body.length then .error .tooLarge
  else (CheckRequest.format.ofBytes body).mapError .document

def evaluated (t : CheckTarget) : Target where
  identifier := t.identifier
  name := t.name

def question (r : CheckRequest) : Except RequestFault Question := do
  let kind ← Flag.Kind.named r.kind
  return ⟨kind, r.key, evaluated r.target⟩

end CheckRequest

/-- Questions to a client, and what is made of its answers. -/
inductive Inquiry (α : Type) where
  | done (result : α)
  | ask (question : Question) (next : question.kind.Value → Inquiry α)

namespace Inquiry

variable {α β : Type}

def map (f : α → β) : Inquiry α → Inquiry β
  | .done a => .done (f a)
  | .ask question next => .ask question fun value => (next value).map f

/-- The result if the questions are answered in this way. -/
def result (answer : (question : Question) → question.kind.Value) : Inquiry α → α
  | .done a => a
  | .ask question next => (next (answer question)).result answer

/-- The questions that are put if they are answered in this way, in their order. -/
def questions (answer : (question : Question) → question.kind.Value) : Inquiry α → List Question
  | .done _ => []
  | .ask question next => question :: (next (answer question)).questions answer

@[simp] theorem result_map (answer : (question : Question) → question.kind.Value) (f : α → β)
    (i : Inquiry α) : (i.map f).result answer = f (i.result answer) := by
  induction i with
  | done a => rfl
  | ask question next ih => exact ih _

@[simp] theorem questions_map (answer : (question : Question) → question.kind.Value) (f : α → β)
    (i : Inquiry α) : (i.map f).questions answer = i.questions answer := by
  induction i with
  | done a => rfl
  | ask question next ih => exact congrArg (question :: ·) (ih _)

end Inquiry

/-- What the client answers. Where there is none, it does not matter what is answered. -/
def Question.answer {γ : Type} [FlagClient γ] (client : Option γ) (question : Question) :
    question.kind.Value :=
  let default := question.kind.absent
  match client with
  | none => default
  | some client => FlagClient.value client question.kind question.key question.target default

def checkFlag (hasClient : Bool) (body : Bytes) : Inquiry (Except RequestFault CheckAnswer) :=
  match CheckRequest.ofBody body with
  | .error fault => .done (.error fault)
  | .ok request =>
    if hasClient then
      match request.question with
      | .error fault => .done (.error fault)
      | .ok question =>
        .ask question fun value => .done (.ok ⟨request.key, question.kind.write value⟩)
    else .done (.error .clientUnavailable)

end FlagHost

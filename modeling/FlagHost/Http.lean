import FlagHost.Url.Basic

/-!
# Requests and talks

A talk is what one party does with another one over the network: it sends a request, goes on with
what comes back, and ends with a result. Nothing is said about who answers. A talk is run against
replies that are given in advance, against a server, or a reply at a time.
-/

namespace FlagHost

structure Request where
  method : String
  url : Url
  /-- Names in small letters. -/
  headers : List (String × String) := []
  body : Bytes := []

structure Response where
  status : Nat
  /-- What the server calls the status. -/
  reason : String := ""
  contentType : Option String := none
  body : Bytes := []
deriving DecidableEq, Repr

def Response.isSuccess (r : Response) : Bool := 200 ≤ r.status && r.status < 300

inductive Reply where
  | response (response : Response)
  /-- There was no connection, or it was closed without an answer, or the answer came too late. -/
  | broken
deriving DecidableEq, Repr

/-- Requests to a party, and what is made of its replies. -/
inductive Talk (α : Type) where
  | done (result : α)
  | ask (request : Request) (next : Reply → Talk α)

namespace Talk

variable {α β : Type}

def bind (t : Talk α) (f : α → Talk β) : Talk β :=
  match t with
  | .done a => f a
  | .ask request next => .ask request fun reply => (next reply).bind f

instance : Monad Talk where
  pure := .done
  bind := bind

def send (request : Request) : Talk Reply := .ask request .done

/-- A talk that has got as far as the replies go: the requests that were answered, the talk that is
left, and the replies that it did not need. -/
structure Progress (α : Type) where
  answered : List Request
  rest : Talk α
  unused : List Reply

/-- Runs a talk with the replies, one for each request. -/
def run : Talk α → List Reply → Progress α
  | .done a, replies => ⟨[], .done a, replies⟩
  | .ask request next, [] => ⟨[], .ask request next, []⟩
  | .ask request next, reply :: replies =>
    let p := (next reply).run replies
    { p with answered := request :: p.answered }

/-- The result of a talk with one who answers each request on its own. -/
def against (server : Request → Reply) : Talk α → α
  | .done a => a
  | .ask request next => (next (server request)).against server

def requests (server : Request → Reply) : Talk α → List Request
  | .done _ => []
  | .ask request next => request :: (next (server request)).requests server

@[simp] theorem against_done (server : Request → Reply) (a : α) :
    (done a).against server = a := rfl

@[simp] theorem against_bind (server : Request → Reply) (t : Talk α) (f : α → Talk β) :
    (t.bind f).against server = (f (t.against server)).against server := by
  induction t with
  | done a => rfl
  | ask request next ih => exact ih _

end Talk

end FlagHost

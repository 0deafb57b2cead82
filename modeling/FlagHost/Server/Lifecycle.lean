import FlagHost.Client.FlagClient
import FlagHost.Error

/-!
# The life of a server

A server is created, started once and stopped once. It listens before it has its client, so that it
answers while the client is still fetching; without a client it stays up and answers that there is
none. A server that is stopped is not started again.

Starting and stopping a server is a list of deeds, of which each changes a field or two: a call that
fails on its way has done those in front of the failure. The server after a call is what its deeds
have made of it.
-/

namespace FlagHost

/-- Where a server is in its life. It is starting only while it is being started. -/
inductive LifecycleState where
  | created
  | starting
  | running
  | stopped
deriving DecidableEq, Repr

structure Address where
  host : String
  port : Nat
deriving DecidableEq, Repr

structure Server (γ : Type) where
  state : LifecycleState := .created
  /-- There is still what makes the client. -/
  hasFactory : Bool := true
  /-- The client, once it has been made. -/
  client : Option γ := none
  /-- There are the threads that answer requests. -/
  hasRuntime : Bool := false
  /-- Whether there is a listener. -/
  isListening : Bool := false
  /-- The address, once there has been one. -/
  address : Option Address := none

namespace Server

variable {γ : Type} [FlagClient γ]

def isActive (s : Server γ) : Bool := s.client.any FlagClient.isInitialized

def isNotActive (s : Server γ) : Bool := !s.isActive

inductive Deed (γ : Type) where
  | enter (state : LifecycleState)
  /-- Threads and a listener come up, at an address. -/
  | listen (address : Address)
  /-- The factory is taken away, and makes the client or fails. -/
  | make
  | fill (client : γ)
  /-- The listener ends. -/
  | hush
  | destroy
  /-- The threads end. -/
  | halt

/-- The server after a deed. A client that is there is not replaced. -/
def after (s : Server γ) : Deed γ → Server γ
  | .enter state => { s with state := state }
  | .listen address =>
    { s with hasRuntime := true, isListening := true, address := some address }
  | .make => { s with hasFactory := false }
  | .fill client => { s with client := s.client <|> some client }
  | .hush => { s with isListening := false }
  | .destroy => { s with client := s.client.map FlagClient.destroy }
  | .halt => { s with hasRuntime := false }

def afterAll (s : Server γ) (deeds : List (Deed γ)) : Server γ := deeds.foldl after s

/-- Starts a server that has not been started or stopped: `bound` is the address at which it comes
to listen, and `made` its client, unless they fail. Tells whether the client became ready, and what
was done. -/
def starting (bound : Except Error Address) (made : Except Error γ) (s : Server γ) :
    Except Error Bool × List (Deed γ) :=
  if s.state ≠ .created then (.error .alreadyStarted, [])
  else
    match bound with
    | .error e => (.error e, [.enter .starting, .enter .stopped])
    | .ok address =>
      let up := [.enter .starting, .listen address, .enter .running]
      if s.hasFactory then
        match made with
        | .error e => (.error e, up ++ [.make])
        | .ok client => (.ok (FlagClient.becameReady client), up ++ [.make, .fill client])
      else (.error .alreadyStarted, up)

def start (bound : Except Error Address) (made : Except Error γ) (s : Server γ) :
    Except Error Bool × Server γ :=
  ((s.starting bound made).1, s.afterAll (s.starting bound made).2)

/-- What is done to stop a server: it ends listening, destroys its client and ends its threads,
where it has them. -/
def stopping (s : Server γ) : List (Deed γ) :=
  if s.state = .stopped then []
  else
    (if s.isListening then [.hush] else []) ++ (if s.client.isSome then [.destroy] else []) ++
      (if s.hasRuntime then [.halt] else []) ++ [.enter .stopped]

/-- Stops a server. Tells whether it is not active any more. -/
def stop (s : Server γ) : Bool × Server γ :=
  let s := s.afterAll s.stopping
  (s.isNotActive, s)

def dropping (s : Server γ) : List (Deed γ) := if s.hasRuntime then s.stopping else []

def drop (s : Server γ) : Server γ := s.afterAll s.dropping

end Server

end FlagHost

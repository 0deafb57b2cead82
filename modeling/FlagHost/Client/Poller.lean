import FlagHost.Connector
import FlagHost.Store

/-!
# The poller

The poller of a client fetches configurations over and over and publishes them in the store of the
client. It notes whether there ever was one: the readiness of the client, which is not taken back
by later errors. It ends when it is told to stop, or when it is clear that it cannot succeed.

The state says where the poller is, in steps as small as others can see them: between publishing a
configuration and noting it there is a moment, and a command to stop is looked at only between two
fetches.
-/

namespace FlagHost

inductive Poller where
  | fetching (talk : Talk (Except Error Configuration × Connector))
  | publishing (configuration : Configuration) (connector : Connector)
  | noting (connector : Connector)
  | failing (error : Error)
  | resting (connector : Connector)
  | ended

def Error.isFinal : Error → Bool
  | .unauthorized => true
  | .invalidUrl => true
  | _ => false

/-- Whether there was a configuration; nothing while there is no answer yet. -/
abbrev Readiness := Option (Except Error Unit)

/-- Notes a result; a success that was noted before stays. -/
def Readiness.update (readiness : Readiness) (result : Except Error Unit) : Readiness :=
  match readiness with
  | some (.ok ()) => readiness
  | _ => some result

/-- A poller, with what it shares with its client. -/
structure Polling where
  poller : Poller
  store : Store := {}
  readiness : Readiness := none
  /-- A command to stop has been sent. -/
  stopping : Bool := false
  /-- The requests that were answered. -/
  answered : List Request := []

namespace Polling

def start (connector : Connector) : Polling := { poller := .fetching connector.fetch }

/-- The next step of the poller; there is none while it waits for a reply or for time to pass, and
when it has ended. -/
def step? (p : Polling) : Option Polling :=
  match p.poller with
  | .fetching (.ask _ _) => none
  | .fetching (.done (.ok configuration, connector)) =>
    some { p with poller := .publishing configuration connector }
  | .fetching (.done (.error e, connector)) =>
    some { p with poller := if e.isFinal then .failing e else .resting connector }
  | .publishing configuration connector =>
    some { p with store := p.store.publish configuration, poller := .noting connector }
  | .noting connector =>
    some { p with readiness := p.readiness.update (.ok ()), poller := .resting connector }
  | .failing e => some { p with readiness := p.readiness.update (.error e), poller := .ended }
  | .resting _ => if p.stopping then some { p with poller := .ended } else none
  | .ended => none

def steps : Nat → Polling → Polling
  | 0, p => p
  | n + 1, p =>
    match p.step? with
    | none => p
    | some q => steps n q

/-- Takes all steps that can be taken: no more than four lie between two waits. -/
def settle (p : Polling) : Polling := p.steps 4

def wake (p : Polling) : Polling :=
  match p.poller with
  | .resting connector =>
    if p.stopping then p.settle else { p with poller := .fetching connector.fetch }.settle
  | _ => p.settle

def receive (p : Polling) (reply : Reply) : Polling :=
  match p.poller with
  | .fetching (.ask request next) =>
    { p with poller := .fetching (next reply), answered := p.answered ++ [request] }.settle
  | _ => p

/-- Time passes and replies arrive as they are waited for, one after the other. -/
def advance (p : Polling) : List Reply → Polling
  | [] => p.wake
  | reply :: replies => (p.wake.receive reply).advance replies

/-- Tells the poller to stop and waits until it has; `late` answers the requests of the fetch that
it may be at. -/
def join (p : Polling) (late : Request → Reply) : Polling :=
  let p := { p with stopping := true }
  match p.poller with
  | .fetching talk => { p with poller := .fetching (.done (talk.against late)) }.settle
  | _ => p.settle

end Polling

end FlagHost

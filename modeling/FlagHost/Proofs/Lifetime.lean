import FlagHost.Client.Basic
import FlagHost.Proofs.Polling
import Mathlib.Logic.Relation

/-!
# The life of a client

A poller and the one who calls its client take their steps in any order. The poller fetches,
publishes, notes and rests, as its own definition says; a call that destroys the client takes the
handle of the poller, tells it to stop, waits until it has ended and then drops the configuration.
The command to stop goes through a channel with one place, and where it cannot be put there the
call goes on as if it had been.

Nothing is said about who replies, what a fetch asks for and how it ends, so all that is shown here
holds for any outcomes of fetches. Main statements: the command is never lost, the call drops the
configuration only when the poller has ended, and what the definitions of a poller and of
`Client.destroyDuring` compute are steps of such a life.
-/

namespace FlagHost

namespace Poller

/-- The loop of the poller has been left, or was never entered. -/
def isOver : Poller → Bool
  | .failing _ => true
  | .ended => true
  | _ => false

/-- The request whose reply is waited for. -/
def pending? : Poller → Option Request
  | .fetching (.ask request _) => some request
  | _ => none

end Poller

namespace Polling

variable {p q : Polling}

/-- The answered requests have no part in the steps of a poller. -/
theorem step?_answered (p : Polling) (answered : List Request) :
    ({ p with answered := answered } : Polling).step? =
      p.step?.map fun q => { q with answered := answered } := by
  obtain ⟨poller, store, readiness, stopping, answered'⟩ := p
  cases poller with
  | fetching talk =>
    cases talk with
    | ask => rfl
    | done result =>
      obtain ⟨result, connector⟩ := result
      cases result <;> rfl
  | resting => cases stopping <;> rfl
  | _ => rfl

theorem stopping_of_step? (step : p.step? = some q) : q.stopping = p.stopping := by
  obtain ⟨poller, store, readiness, stopping, answered⟩ := p
  cases poller with
  | fetching talk =>
    cases talk with
    | ask => cases step
    | done result =>
      obtain ⟨result, connector⟩ := result
      cases result <;> (cases step; rfl)
  | resting =>
    cases stopping with
    | false => cases step
    | true =>
      cases step
      rfl
  | ended => cases step
  | _ =>
    cases step
    rfl

/-- A poller that is told to stop ends when its fetch is answered. -/
theorem poller_join (p : Polling) (late : Request → Reply) : (p.join late).poller = .ended := by
  obtain ⟨poller, store, readiness, stopping, answered⟩ := p
  cases poller with
  | fetching talk =>
    unfold join
    dsimp only
    generalize talk.against late = result
    obtain ⟨result, connector⟩ := result
    cases result with
    | ok => rfl
    | error e =>
      cases isFinal : e.isFinal <;> simp [settle, steps, step?, isFinal]
  | _ => rfl

end Polling

/-- Where the one who calls a client is. -/
inductive Caller where
  /-- In no call that destroys the client. -/
  | away
  /-- Has taken the handle of the poller. -/
  | telling
  /-- Has told the poller to stop, and waits until it has ended. -/
  | joining
  /-- Is about to drop the configuration. -/
  | clearing
  /-- Has dropped the client. -/
  | gone
deriving DecidableEq

/-- What has happened in the life of a client. -/
inductive Event where
  /-- The poller could not make what it sends requests with. -/
  | unbuilt (e : Error)
  /-- A fetch came to its end. -/
  | fetched (result : Except Error Configuration)
  | published (configuration : Configuration)
  /-- The poller heard that it is to stop. -/
  | stopped
  /-- A call that destroys the client dropped the configuration and returned. -/
  | cleared

/-- A poller, the channel by which it is told to stop, and its client. -/
structure Life where
  poller : Poller
  store : Store := {}
  readiness : Readiness := none
  /-- The requests that were answered. -/
  answered : List Request := []
  /-- The commands to stop that are in the channel. -/
  commands : Nat := 0
  /-- The client has the handle of its poller, and with it the sending end of the channel. -/
  handle : Bool := true
  caller : Caller := .away
  /-- What has happened, the latest event first. -/
  log : List Event := []

namespace Life

/-- The commands that the channel has room for. -/
def capacity : Nat := 1

/-- The sending end of the channel is there: the client has it, or the call that took it. -/
def hasSender (l : Life) : Bool := l.handle || l.caller == .telling || l.caller == .joining

/-- What the poller finds when it looks into the channel: a command, or that none can come. -/
def hears (l : Life) : Bool := decide (0 < l.commands) || !l.hasSender

/-- The poller with what it shares with its client. -/
def polling (l : Life) : Polling where
  poller := l.poller
  store := l.store
  readiness := l.readiness
  stopping := l.hears
  answered := l.answered

/-- The requests that were sent. -/
def sent (l : Life) : List Request := l.answered ++ l.poller.pending?.toList

/-- Why a command is not put into the channel. -/
inductive Refusal where
  /-- The poller has ended, and with it the receiving end. -/
  | closed
  | full
deriving DecidableEq

/-- Puts a command into the channel. -/
def trySend (l : Life) : Except Refusal Life :=
  match l.poller with
  | .ended => .error .closed
  | _ =>
    if l.commands < capacity then .ok { l with commands := l.commands + 1 } else .error .full

/-- Tells the poller to stop. Whether the command was refused makes no difference. -/
def tell (l : Life) : Life :=
  match l.trySend with
  | .ok told => told
  | .error _ => l

/-- What is told of the step that a poller takes next. -/
def news : Poller → List Event
  | .fetching (.done (result, _)) => [.fetched result]
  | .publishing configuration _ => [.published configuration]
  | _ => []

/-- The life after the poller has taken a step. -/
def worked (l : Life) (p : Polling) : Life :=
  { l with
    poller := p.poller, store := p.store, readiness := p.readiness
    log := news l.poller ++ l.log }

/-- The steps of the poller. -/
inductive PollerStep : Life → Life → Prop where
  | reply {l : Life} {request : Request}
      {next : Reply → Talk (Except Error Configuration × Connector)}
      (asks : l.poller = .fetching (.ask request next)) (reply : Reply) :
      PollerStep l
        { l with poller := .fetching (next reply), answered := l.answered ++ [request] }
  | work {l : Life} {p : Polling} (busy : ∀ connector, l.poller ≠ .resting connector)
      (step : l.polling.step? = some p) : PollerStep l (l.worked p)
  /-- The poller looks into the channel, and ends. -/
  | hear {l : Life} {connector : Connector} (rests : l.poller = .resting connector)
      (heard : l.hears = true) :
      PollerStep l
        { l with poller := .ended, commands := l.commands - 1, log := .stopped :: l.log }
  /-- The poller finds nothing in the channel until its time is over, and fetches again. -/
  | wake {l : Life} {connector : Connector} (rests : l.poller = .resting connector)
      (quiet : l.hears = false) (talk : Talk (Except Error Configuration × Connector)) :
      PollerStep l { l with poller := .fetching talk }

/-- The steps of the one who calls the client. -/
inductive CallerStep : Life → Life → Prop where
  /-- A call that destroys the client begins, and takes the handle. -/
  | call {l : Life} (away : l.caller = .away) (handle : l.handle = true) :
      CallerStep l { l with handle := false, caller := .telling }
  /-- Such a call begins when the handle was taken before. -/
  | callAgain {l : Life} (away : l.caller = .away) (free : l.handle = false) :
      CallerStep l { l with caller := .clearing }
  | tell {l : Life} (telling : l.caller = .telling) :
      CallerStep l { l.tell with caller := .joining }
  | join {l : Life} (joining : l.caller = .joining) (ended : l.poller = .ended) :
      CallerStep l { l with caller := .clearing }
  | clear {l : Life} (clearing : l.caller = .clearing) :
      CallerStep l { l with store := l.store.clear, caller := .away, log := .cleared :: l.log }
  /-- The client is dropped. It tells its poller to stop, but does not wait for it. -/
  | drop {l : Life} (away : l.caller = .away) (handle : l.handle = true) :
      CallerStep l { l.tell with handle := false, caller := .gone }
  /-- A client that was destroyed is dropped. -/
  | dropAfter {l : Life} (away : l.caller = .away) (free : l.handle = false) :
      CallerStep l { l with caller := .gone }

/-- A step of either of them. -/
def Step (l l' : Life) : Prop := l.PollerStep l' ∨ l.CallerStep l'

/-- What a life may have come to after some more steps. -/
def Later : Life → Life → Prop := Relation.ReflTransGen Step

/-- The lives of clients. -/
inductive Lives : Life → Prop where
  | start (talk : Talk (Except Error Configuration × Connector)) :
      Lives { poller := .fetching talk }
  | unbuilt (e : Error) : Lives { poller := .failing e, log := [.unbuilt e] }
  | step {l l' : Life} (lives : Lives l) (step : l.Step l') : Lives l'

theorem Lives.later {l l' : Life} (h : Lives l) (later : l.Later l') : Lives l' := by
  induction later with
  | refl => exact h
  | tail _ step ih => exact ih.step step

/-! ## Steps -/

/-- What the poller does between a reply and its next wait. -/
inductive Works (l : Life) : Life → Prop where
  | succeed {configuration : Configuration} {connector : Connector}
      (fetched : l.poller = .fetching (.done (.ok configuration, connector))) :
      Works l
        { l with
          poller := .publishing configuration connector
          log := .fetched (.ok configuration) :: l.log }
  | fail {e : Error} {connector : Connector}
      (fetched : l.poller = .fetching (.done (.error e, connector))) (isFinal : e.isFinal = true) :
      Works l { l with poller := .failing e, log := .fetched (.error e) :: l.log }
  | retry {e : Error} {connector : Connector}
      (fetched : l.poller = .fetching (.done (.error e, connector)))
      (isFinal : e.isFinal = false) :
      Works l { l with poller := .resting connector, log := .fetched (.error e) :: l.log }
  | publish {configuration : Configuration} {connector : Connector}
      (publishes : l.poller = .publishing configuration connector) :
      Works l
        { l with
          poller := .noting connector
          store := l.store.publish configuration
          log := .published configuration :: l.log }
  | note {connector : Connector} (notes : l.poller = .noting connector) :
      Works l
        { l with poller := .resting connector, readiness := l.readiness.update (.ok ()) }
  | giveUp {e : Error} (fails : l.poller = .failing e) :
      Works l { l with poller := .ended, readiness := l.readiness.update (.error e) }

theorem works_of_step? {l : Life} {p : Polling} (busy : ∀ connector, l.poller ≠ .resting connector)
    (step : l.polling.step? = some p) : l.Works (l.worked p) := by
  obtain ⟨poller, store, readiness, answered, commands, handle, caller, log⟩ := l
  cases poller with
  | fetching talk =>
    cases talk with
    | ask => cases step
    | done result =>
      obtain ⟨result, connector⟩ := result
      cases result with
      | ok configuration =>
        cases step
        exact .succeed rfl
      | error e =>
        cases isFinal : e.isFinal with
        | true =>
          simp only [polling, Polling.step?, isFinal, if_true] at step
          cases step
          exact .fail rfl isFinal
        | false =>
          simp only [polling, Polling.step?, isFinal, Bool.false_eq_true, if_false] at step
          cases step
          exact .retry rfl isFinal
  | publishing configuration connector =>
    cases step
    exact .publish rfl
  | noting connector =>
    cases step
    exact .note rfl
  | failing e =>
    cases step
    exact .giveUp rfl
  | resting connector => exact absurd rfl (busy connector)
  | ended => cases step

variable {l l' : Life} {p q : Polling}

theorem Works.pollerStep (h : l.Works l') : l.PollerStep l' := by
  have work {p : Polling} (busy : ∀ connector, l.poller ≠ .resting connector)
      (step : l.polling.step? = some p) (reaches : l.worked p = l') : l.PollerStep l' :=
    reaches ▸ .work busy step
  obtain ⟨poller, store, readiness, answered, commands, handle, caller, log⟩ := l
  cases h with
  | succeed fetched =>
    cases fetched
    exact work (fun _ rests => nomatch rests) rfl rfl
  | @fail e connector fetched isFinal =>
    cases fetched
    exact work (fun _ rests => nomatch rests) rfl (by simp [worked, news, polling, isFinal])
  | @retry e connector fetched isFinal =>
    cases fetched
    exact work (fun _ rests => nomatch rests) rfl (by simp [worked, news, polling, isFinal])
  | publish publishes =>
    cases publishes
    exact work (fun _ rests => nomatch rests) rfl rfl
  | note notes =>
    cases notes
    exact work (fun _ rests => nomatch rests) rfl rfl
  | giveUp fails =>
    cases fails
    exact work (fun _ rests => nomatch rests) rfl rfl

theorem Lives.works (h : Lives l) (works : l.Works l') : Lives l' := h.step (.inl works.pollerStep)

/-- Telling a poller to stop changes nothing but the channel. -/
theorem tell_eq (l : Life) : l.tell = { l with commands := l.tell.commands } := by
  obtain ⟨poller, store, readiness, answered, commands, handle, caller, log⟩ := l
  cases poller <;> cases commands <;> rfl

/-- A command that is refused is not missed: there is one already, or the poller has ended. -/
theorem ended_or_told (l : Life) : l.poller = .ended ∨ 0 < l.tell.commands := by
  obtain ⟨poller, store, readiness, answered, commands, handle, caller, log⟩ := l
  cases poller with
  | ended => exact .inl rfl
  | _ => cases commands <;> exact .inr (Nat.succ_pos _)

theorem commands_tell_le (h : l.commands ≤ capacity) : l.tell.commands ≤ capacity := by
  obtain ⟨poller, store, readiness, answered, commands, handle, caller, log⟩ := l
  cases poller with
  | ended => exact h
  | _ =>
    cases commands with
    | zero => exact Nat.le_refl 1
    | succ => exact h

theorem PollerStep.ne_ended (h : l.PollerStep l') : l.poller ≠ .ended := by
  intro ended
  cases h with
  | reply asks => exact nomatch ended.symm.trans asks
  | work _ step => simp [polling, Polling.step?, ended] at step
  | hear rests => exact nomatch ended.symm.trans rests
  | wake rests => exact nomatch ended.symm.trans rests

/-- What a poller leaves to the one who calls its client. -/
structure Spares (l l' : Life) : Prop where
  handle : l'.handle = l.handle
  caller : l'.caller = l.caller
  commands : l'.poller = .ended ∧ l'.commands ≤ l.commands ∨ l'.commands = l.commands
  cleared : .cleared ∈ l'.log → .cleared ∈ l.log

theorem news_ne_cleared (poller : Poller) : .cleared ∉ news poller := by
  cases poller with
  | fetching talk => cases talk <;> simp [news]
  | publishing => simp [news]
  | noting => simp [news]
  | failing => simp [news]
  | resting => simp [news]
  | ended => simp [news]

theorem PollerStep.spares (h : l.PollerStep l') : l.Spares l' := by
  cases h with
  | reply => exact ⟨rfl, rfl, .inr rfl, id⟩
  | work =>
    refine ⟨rfl, rfl, .inr rfl, fun cleared => ?_⟩
    exact (List.mem_append.1 cleared).resolve_left (news_ne_cleared l.poller)
  | hear =>
    refine ⟨rfl, rfl, .inl ⟨rfl, Nat.sub_le _ _⟩, fun cleared => ?_⟩
    exact (List.mem_cons.1 cleared).resolve_left fun h => nomatch h
  | wake => exact ⟨rfl, rfl, .inr rfl, id⟩

/-- A poller that has ended takes no more steps, and what the others do does not touch it. -/
theorem Step.of_ended (h : l.Step l') (ended : l.poller = .ended) :
    l'.poller = .ended ∧ l'.readiness = l.readiness ∧ l'.answered = l.answered := by
  rcases h with poller | caller
  · exact absurd ended poller.ne_ended
  · cases caller with
    | tell =>
      rw [tell_eq]
      exact ⟨ended, rfl, rfl⟩
    | drop =>
      rw [tell_eq]
      exact ⟨ended, rfl, rfl⟩
    | _ => exact ⟨ended, rfl, rfl⟩

theorem Later.of_ended (h : l.Later l') (ended : l.poller = .ended) :
    l'.poller = .ended ∧ l'.readiness = l.readiness ∧ l'.answered = l.answered := by
  induction h with
  | refl => exact ⟨ended, rfl, rfl⟩
  | tail _ step ih =>
    obtain ⟨poller, readiness, answered⟩ := step.of_ended ih.1
    exact ⟨poller, readiness.trans ih.2.1, answered.trans ih.2.2⟩

/-! ## The command to stop -/

/-- What holds between the poller and the calls that destroy its client. -/
structure Guarded (l : Life) : Prop where
  commands_le : l.commands ≤ capacity
  away : l.handle = true → l.caller = .away
  /-- The poller that was told to stop will hear it, if it has not ended already. -/
  told : l.caller = .joining ∨ l.caller = .gone → l.poller = .ended ∨ 0 < l.commands
  joined : l.caller = .clearing ∨ l.caller = .away ∧ l.handle = false → l.poller = .ended
  cleared : .cleared ∈ l.log →
    l.poller = .ended ∧ l.handle = false ∧ l.store.snapshot = none

theorem Guarded.of_pollerStep (h : l.Guarded) (step : l.PollerStep l') : l'.Guarded := by
  have runs := step.ne_ended
  have spares := step.spares
  constructor
  case commands_le =>
    rcases spares.commands with ⟨-, le⟩ | same
    · exact Nat.le_trans le h.commands_le
    · exact Nat.le_trans (Nat.le_of_eq same) h.commands_le
  case away =>
    rw [spares.handle, spares.caller]
    exact h.away
  case told =>
    rw [spares.caller]
    intro told
    rcases spares.commands with ⟨ended, -⟩ | same
    · exact .inl ended
    · rw [same]
      exact .inr ((h.told told).resolve_left runs)
  case joined =>
    rw [spares.caller, spares.handle]
    exact fun joined => absurd (h.joined joined) runs
  case cleared => exact fun cleared => absurd (h.cleared (spares.cleared cleared)).1 runs

theorem Guarded.free (h : l.Guarded) (busy : l.caller ≠ .away) : l.handle = false :=
  eq_false_of_ne_true fun handle => busy (h.away handle)

theorem Guarded.of_callerStep (h : l.Guarded) (step : l.CallerStep l') : l'.Guarded := by
  have told := l.ended_or_told
  cases step with
  | call away handle =>
    constructor
    case commands_le => exact h.commands_le
    case away => exact fun handle => nomatch handle
    case told => simp
    case joined => simp
    case cleared => exact fun cleared => nomatch handle.symm.trans (h.cleared cleared).2.1
  | callAgain away free =>
    constructor
    case commands_le => exact h.commands_le
    case away => exact fun handle => nomatch free.symm.trans handle
    case told => simp
    case joined => exact fun _ => h.joined (.inr ⟨away, free⟩)
    case cleared => exact h.cleared
  | tell telling =>
    have free := h.free fun away => nomatch telling.symm.trans away
    rw [tell_eq]
    constructor
    case commands_le => exact commands_tell_le h.commands_le
    case away => exact fun handle => nomatch free.symm.trans handle
    case told => exact fun _ => told
    case joined => simp
    case cleared => exact h.cleared
  | join joining ended =>
    have free := h.free fun away => nomatch joining.symm.trans away
    constructor
    case commands_le => exact h.commands_le
    case away => exact fun handle => nomatch free.symm.trans handle
    case told => simp
    case joined => exact fun _ => ended
    case cleared => exact h.cleared
  | clear clearing =>
    have ended := h.joined (.inl clearing)
    have free := h.free fun away => nomatch clearing.symm.trans away
    constructor
    case commands_le => exact h.commands_le
    case away => exact fun _ => rfl
    case told => simp
    case joined => exact fun _ => ended
    case cleared => exact fun _ => ⟨ended, free, rfl⟩
  | drop away handle =>
    rw [tell_eq]
    constructor
    case commands_le => exact commands_tell_le h.commands_le
    case away => exact fun handle => nomatch handle
    case told => exact fun _ => told
    case joined => simp
    case cleared => exact fun cleared => nomatch handle.symm.trans (h.cleared cleared).2.1
  | dropAfter away free =>
    constructor
    case commands_le => exact h.commands_le
    case away => exact fun handle => nomatch free.symm.trans handle
    case told => exact fun _ => .inl (h.joined (.inr ⟨away, free⟩))
    case joined => simp
    case cleared => exact h.cleared

theorem Lives.guarded (h : Lives l) : l.Guarded := by
  induction h with
  | start => constructor <;> simp
  | unbuilt => constructor <;> simp
  | step _ step ih =>
    rcases step with step | step
    · exact ih.of_pollerStep step
    · exact ih.of_callerStep step

/-! ## The definitions of a poller -/

/-- The poller is in the state of the other one, and hears what that one does. -/
structure Mirrors (l : Life) (p : Polling) : Prop where
  poller : l.poller = p.poller
  store : l.store = p.store
  readiness : l.readiness = p.readiness
  hears : p.poller ≠ .ended → l.hears = p.stopping

theorem Mirrors.polling_eq (h : l.Mirrors p) (runs : p.poller ≠ .ended) :
    l.polling = { p with answered := l.answered } := by
  obtain ⟨poller, store, readiness, stopping, answered⟩ := p
  rw [polling, h.poller, h.store, h.readiness, h.hears runs]

/-- A step that the definition of a poller takes is a step of the poller's life. -/
theorem Mirrors.exists_pollerStep (h : l.Mirrors p) (step : p.step? = some q) :
    ∃ l', l.PollerStep l' ∧ l'.Mirrors q ∧ l'.caller = l.caller ∧ l'.handle = l.handle := by
  have runs : p.poller ≠ .ended := by
    intro ended
    simp [Polling.step?, ended] at step
  have hears := h.hears runs
  by_cases rests : ∃ connector, p.poller = .resting connector
  · obtain ⟨connector, rests⟩ := rests
    simp only [Polling.step?, rests] at step
    split at step
    · next stopping =>
      cases step
      refine ⟨_, .hear (h.poller.trans rests) (hears.trans stopping), ?_, rfl, rfl⟩
      exact ⟨rfl, h.store, h.readiness, fun runs => absurd rfl runs⟩
    · cases step
  · have busy (connector : Connector) : l.poller ≠ .resting connector := by
      rw [h.poller]
      exact fun at_rest => rests ⟨connector, at_rest⟩
    have worked : l.polling.step? = some { q with answered := l.answered } := by
      rw [h.polling_eq runs, Polling.step?_answered, step]
      rfl
    refine ⟨_, .work busy worked, ?_, rfl, rfl⟩
    exact ⟨rfl, rfl, rfl, fun _ => hears.trans (Polling.stopping_of_step? step).symm⟩

theorem Mirrors.exists_later_steps (h : l.Mirrors p) (n : Nat) :
    ∃ l', l.Later l' ∧ l'.Mirrors (p.steps n) ∧ l'.caller = l.caller ∧ l'.handle = l.handle := by
  induction n generalizing l p with
  | zero => exact ⟨l, .refl, h, rfl, rfl⟩
  | succ n ih =>
    unfold Polling.steps
    split
    · exact ⟨l, .refl, h, rfl, rfl⟩
    · next q step =>
      obtain ⟨l₁, first, mirrors, caller, handle⟩ := h.exists_pollerStep step
      obtain ⟨l₂, later, mirrors', caller', handle'⟩ := ih mirrors
      exact ⟨l₂, .head (.inl first) later, mirrors', caller'.trans caller, handle'.trans handle⟩

/-- A fetch comes to its end when its requests are answered. -/
theorem later_against {talk : Talk (Except Error Configuration × Connector)}
    (fetches : l.poller = .fetching talk) (server : Request → Reply) :
    l.Later
      { l with
        poller := .fetching (.done (talk.against server))
        answered := l.answered ++ talk.requests server } := by
  induction talk generalizing l with
  | done result =>
    rw [Talk.against, Talk.requests, List.append_nil, ← fetches]
    exact .refl
  | ask request next ih =>
    have later := ih (server request)
      (l := { l with
        poller := .fetching (next (server request)), answered := l.answered ++ [request] }) rfl
    rw [List.append_assoc] at later
    exact .head (.inl (.reply fetches (server request))) later

/-- What a poller comes to when it is told to stop, and its last fetch is answered. -/
theorem Mirrors.exists_later_join (h : l.Mirrors { p with stopping := true })
    (server : Request → Reply) :
    ∃ l', l.Later l' ∧ l'.Mirrors (p.join server) ∧ l'.caller = l.caller ∧
      l'.handle = l.handle := by
  obtain ⟨poller, store, readiness, stopping, answered⟩ := p
  cases poller with
  | fetching talk =>
    have later := later_against h.poller server
    have mirrors : Mirrors
        { l with
          poller := .fetching (.done (talk.against server))
          answered := l.answered ++ talk.requests server }
        { poller := .fetching (.done (talk.against server)), store, readiness, stopping := true
          answered } :=
      ⟨rfl, h.store, h.readiness, fun _ => h.hears fun ended => nomatch ended⟩
    obtain ⟨l', settles, mirrors', caller, handle⟩ := mirrors.exists_later_steps 4
    exact ⟨l', later.trans settles, mirrors', caller, handle⟩
  | publishing => exact h.exists_later_steps 4
  | noting => exact h.exists_later_steps 4
  | failing => exact h.exists_later_steps 4
  | resting => exact h.exists_later_steps 4
  | ended => exact h.exists_later_steps 4

/-- A client that is told to stop its poller hears it. -/
theorem mirrors_told (l : Life) (handle : Bool) (caller : Caller) :
    Mirrors { l.tell with handle := handle, caller := caller }
      { l.polling with stopping := true } := by
  have told := l.ended_or_told
  rw [tell_eq]
  refine ⟨rfl, rfl, rfl, fun runs => ?_⟩
  have waits : 0 < l.tell.commands := told.resolve_left runs
  simp [hears, waits]

/-- A call that destroys a client comes to its end, and makes of the client what the definition
says. -/
theorem Guarded.exists_later_destroyDuring (h : l.Guarded) (away : l.caller = .away)
    (server : Request → Reply) :
    ∃ l', l.Later l' ∧ l'.Mirrors (Client.destroyDuring ⟨l.polling⟩ server).polling ∧
      .cleared ∈ l'.log := by
  have at_end : (l.polling.join server).poller = .ended := Polling.poller_join _ server
  cases handle : l.handle with
  | false =>
    have ended := h.joined (.inr ⟨away, handle⟩)
    have joined : l.polling.join server = { l.polling with stopping := true } := by
      simp [Polling.join, polling, ended, Polling.settle, Polling.steps, Polling.step?]
    refine ⟨_, .head (.inr (.callAgain away handle)) (.single (.inr (.clear rfl))), ?_,
      List.mem_cons_self⟩
    refine ⟨ended.trans at_end.symm, rfl, ?_, fun runs => absurd at_end runs⟩
    exact congrArg Polling.readiness joined.symm
  | true =>
    let telling : Life := { l with handle := false, caller := .telling }
    have call : l.Step telling := .inr (.call away handle)
    have tell : telling.Step { telling.tell with caller := .joining } := .inr (.tell rfl)
    have told : Mirrors { telling.tell with caller := .joining }
        { l.polling with stopping := true } :=
      telling.mirrors_told telling.tell.handle .joining
    obtain ⟨l', later, mirrors, joining, -⟩ := told.exists_later_join server
    have ended := mirrors.poller.trans at_end
    have join : l'.Step { l' with caller := .clearing } := .inr (.join joining ended)
    refine ⟨_, .head call (.head tell (later.trans (.head join (.single (.inr (.clear rfl)))))),
      ?_, List.mem_cons_self⟩
    exact ⟨mirrors.poller, rfl, mirrors.readiness, fun runs => absurd at_end runs⟩

end Life

/-- What the definitions of a poller do with their connector is a life of a client. -/
theorem Polling.Runs.exists_lives {c : Connector} {polls : List (List Exchange)} {p : Polling}
    (h : Polling.Runs c polls p) :
    ∃ l, Life.Lives l ∧ l.Mirrors p ∧
      (p.stopping = false → l.caller = .away ∧ l.handle = true) := by
  induction h with
  | start => exact ⟨_, .start c.fetch, ⟨rfl, rfl, rfl, fun _ => rfl⟩, fun _ => ⟨rfl, rfl⟩⟩
  | step _ step ih =>
    obtain ⟨l, lives, mirrors, free⟩ := ih
    obtain ⟨l', step', mirrors', caller, handle⟩ := mirrors.exists_pollerStep step
    refine ⟨l', lives.step (.inl step'), mirrors', ?_⟩
    rw [caller, handle, Polling.stopping_of_step? step]
    exact free
  | receive _ asks reply ih =>
    obtain ⟨l, lives, mirrors, free⟩ := ih
    have asks' := mirrors.poller.trans asks
    have hears := mirrors.hears fun ended => nomatch asks.symm.trans ended
    refine ⟨_, lives.step (.inl (.reply asks' reply)), ?_, free⟩
    exact ⟨rfl, mirrors.store, mirrors.readiness, fun _ => hears⟩
  | @wake _ _ connector _ rests goes ih =>
    obtain ⟨l, lives, mirrors, free⟩ := ih
    have rests' := mirrors.poller.trans rests
    have hears := mirrors.hears fun ended => nomatch rests.symm.trans ended
    refine ⟨_, lives.step (.inl (.wake rests' (hears.trans goes) connector.fetch)), ?_, free⟩
    exact ⟨rfl, mirrors.store, mirrors.readiness, fun _ => hears⟩
  | @stop _ p _ ih =>
    obtain ⟨l, lives, mirrors, free⟩ := ih
    cases told : p.stopping with
    | true =>
      refine ⟨l, lives, ⟨mirrors.poller, mirrors.store, mirrors.readiness, fun runs => ?_⟩, ?_⟩
      · exact (mirrors.hears runs).trans told
      · exact fun goes => nomatch goes
    | false =>
      obtain ⟨away, handle⟩ := free told
      have mirrors' := l.mirrors_told false .gone
      refine ⟨_, lives.step (.inr (.drop away handle)), ?_, fun goes => nomatch goes⟩
      exact ⟨mirrors'.poller.trans mirrors.poller, mirrors'.store.trans mirrors.store,
        mirrors'.readiness.trans mirrors.readiness,
        fun runs => mirrors'.hears fun ended => runs (mirrors.poller.symm.trans ended)⟩

end FlagHost

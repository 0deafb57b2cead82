import FlagHost.Client.Stub
import FlagHost.Server.Lifecycle
import Mathlib.Logic.Relation

/-!
# The stages of a server

Calls come to a server in any order, and between them its client may change by itself.
`Stage deeds s` says which servers there can be, each with all that was done to it so far: it is
new, it was stopped before it was started, no listener came up, or it has been started, with a
client or without one, and perhaps stopped. Main statement: no calls lead to another stage, so what
is done to a server is done in its order and once.
-/

namespace FlagHost

/-- How far a state is in a life. -/
def LifecycleState.rank : LifecycleState → Nat
  | .created => 0
  | .starting => 1
  | .running => 2
  | .stopped => 3

namespace Server

variable {γ : Type}

/-- A call of a server. -/
inductive Call (γ : Type) where
  /-- A call to start, which comes to listen at an address and to have a client, or fails to. -/
  | start (bound : Except Error Address) (made : Except Error γ)
  | stop
  /-- A call that only asks the server for something. -/
  | look

/-- What a call does to a server. -/
def Call.deeds [FlagClient γ] (s : Server γ) : Call γ → List (Deed γ)
  | .start bound made => (s.starting bound made).2
  | .stop => s.stopping
  | .look => []

/-- The server with another client in the place of one that it has. -/
def change (s : Server γ) (f : γ → γ) : Server γ := { s with client := s.client.map f }

/-- The servers that there are after calls, with all that was done to them. -/
inductive Runs [FlagClient γ] : List (Call γ) → List (Deed γ) → Server γ → Prop where
  | new : Runs [] [] {}
  | call {calls : List (Call γ)} {deeds : List (Deed γ)} {s : Server γ} (runs : Runs calls deeds s)
      (call : Call γ) :
      Runs (calls ++ [call]) (deeds ++ call.deeds s) (s.afterAll (call.deeds s))
  /-- Between two calls the client changes by itself. -/
  | pass {calls : List (Call γ)} {deeds : List (Deed γ)} {s : Server γ} (runs : Runs calls deeds s)
      (f : γ → γ) : Runs calls deeds (s.change f)

/-! ## Stages -/

/-- What is done until a server listens. -/
def up (address : Address) : List (Deed γ) :=
  [.enter .starting, .listen address, .enter .running]

/-- A server that listens. -/
def running (address : Address) (client : Option γ) : Server γ where
  state := .running
  hasFactory := false
  client := client
  hasRuntime := true
  isListening := true
  address := some address

/-- A server that listened once. -/
def halted (address : Address) (client : Option γ) : Server γ where
  state := .stopped
  hasFactory := false
  client := client
  address := some address

/-- The servers that there can be, with all that was done to them. -/
inductive Stage : List (Deed γ) → Server γ → Prop where
  | new : Stage [] {}
  | unstarted : Stage [.enter .stopped] { state := .stopped }
  | unbound : Stage [.enter .starting, .enter .stopped] { state := .stopped }
  | bare (address : Address) : Stage (up address ++ [.make]) (running address none)
  | filled (address : Address) (made now : γ) :
      Stage (up address ++ [.make, .fill made]) (running address (some now))
  | bareHalted (address : Address) :
      Stage (up address ++ [.make] ++ [.hush, .halt, .enter .stopped]) (halted address none)
  | filledHalted (address : Address) (made now : γ) :
      Stage (up address ++ [.make, .fill made] ++ [.hush, .destroy, .halt, .enter .stopped])
        (halted address (some now))

theorem stopping_of_stopped {s : Server γ} (h : s.state = .stopped) : s.stopping = [] := if_pos h

theorem Stage.change {deeds : List (Deed γ)} {s : Server γ} (h : Stage deeds s) (f : γ → γ) :
    Stage deeds (s.change f) := by
  cases h with
  | new => exact .new
  | unstarted => exact .unstarted
  | unbound => exact .unbound
  | bare address => exact .bare address
  | filled address made now => exact .filled address made (f now)
  | bareHalted address => exact .bareHalted address
  | filledHalted address made now => exact .filledHalted address made (f now)

theorem Stage.eq_of_created {deeds : List (Deed γ)} {s : Server γ} (h : Stage deeds s)
    (created : s.state = .created) : deeds = [] ∧ s = {} := by
  cases h with
  | new => exact ⟨rfl, rfl⟩
  | _ => exact nomatch created

/-- The calls have neither started the server nor stopped it. -/
def Untouched (calls : List (Call γ)) : Prop := ∀ call ∈ calls, call = .look

theorem untouched_append_iff (calls : List (Call γ)) (call : Call γ) :
    Untouched (calls ++ [call]) ↔ Untouched calls ∧ call = .look := by
  simp [Untouched, or_imp, forall_and]

/-! ## Order -/

/-- The states that are entered, in their order. -/
def entered (deeds : List (Deed γ)) : List LifecycleState :=
  deeds.filterMap fun
    | .enter state => some state
    | _ => none

/-- How often the factory is used. -/
def factoryRuns (deeds : List (Deed γ)) : Nat := deeds.countP fun deed => deed matches .make

/-- How often a client is put into the server. -/
def fills (deeds : List (Deed γ)) : Nat := deeds.countP fun deed => deed matches .fill _

/-- How often the client is destroyed. -/
def destructions (deeds : List (Deed γ)) : Nat := deeds.countP fun deed => deed matches .destroy

/-- What is known of a server between two calls. -/
structure Settled (deeds : List (Deed γ)) (s : Server γ) : Prop where
  /-- The states that are entered go forward. -/
  forward : ((.created :: entered deeds).map LifecycleState.rank).Pairwise (· < ·)
  state_eq : (.created :: entered deeds).getLast? = some s.state
  /-- No call returns while the server is being started. -/
  state_ne : s.state ≠ .starting
  hasRuntime_iff : s.hasRuntime = true ↔ s.state = .running
  isListening_iff : s.isListening = true ↔ s.state = .running
  factoryRuns_le : factoryRuns deeds ≤ 1
  fills_le : fills deeds ≤ 1
  isSome_client_iff : s.client.isSome = true ↔ ∃ client, .fill client ∈ deeds
  destructions_eq :
    destructions deeds = if s.client.isSome ∧ s.state = .stopped then 1 else 0

theorem Stage.settled {deeds : List (Deed γ)} {s : Server γ} (h : Stage deeds s) :
    Settled deeds s := by
  constructor
  case forward => cases h <;> simp [entered, up, LifecycleState.rank]
  case state_eq => cases h <;> rfl
  case state_ne => cases h <;> exact fun same => nomatch same
  case hasRuntime_iff => cases h <;> simp [running, halted]
  case isListening_iff => cases h <;> simp [running, halted]
  case factoryRuns_le => cases h <;> simp [factoryRuns, up]
  case fills_le => cases h <;> simp [fills, up]
  case isSome_client_iff => cases h <;> simp [up, running, halted]
  case destructions_eq => cases h <;> simp [destructions, up, running, halted]

/-! ## Calls -/

section Calls

variable [FlagClient γ]

theorem starting_of_ne {s : Server γ} (h : s.state ≠ .created) (bound : Except Error Address)
    (made : Except Error γ) : s.starting bound made = (.error .alreadyStarted, []) := if_pos h

theorem Stage.start {deeds : List (Deed γ)} {s : Server γ} (h : Stage deeds s)
    (bound : Except Error Address) (made : Except Error γ) :
    Stage (deeds ++ (s.starting bound made).2) (s.afterAll (s.starting bound made).2) := by
  by_cases created : s.state = .created
  · cases h with
    | new =>
      cases bound with
      | error e => exact .unbound
      | ok address =>
        cases made with
        | error e => exact .bare address
        | ok client => exact .filled address client client
    | _ => exact nomatch created
  · rw [starting_of_ne created, List.append_nil]
    exact h

theorem Stage.stop {deeds : List (Deed γ)} {s : Server γ} (h : Stage deeds s) :
    Stage (deeds ++ s.stopping) (s.afterAll s.stopping) := by
  by_cases stopped : s.state = .stopped
  · rw [stopping_of_stopped stopped, List.append_nil]
    exact h
  · cases h with
    | new => exact .unstarted
    | bare address => exact .bareHalted address
    | filled address made now => exact .filledHalted address made (FlagClient.destroy now)
    | _ => exact absurd rfl stopped

theorem Runs.stage {calls : List (Call γ)} {deeds : List (Deed γ)} {s : Server γ}
    (h : Runs calls deeds s) : Stage deeds s := by
  induction h with
  | new => exact .new
  | pass _ f ih => exact ih.change f
  | call _ call ih =>
    cases call with
    | start bound made => exact ih.start bound made
    | stop => exact ih.stop
    | look =>
      rw [Call.deeds, List.append_nil]
      exact ih

/-- What may become of a server by calls and by changes of its client. -/
inductive Later : Server γ → Server γ → Prop where
  | refl (s : Server γ) : Later s s
  | call {s t : Server γ} (later : Later s t) (call : Call γ) :
      Later s (t.afterAll (call.deeds t))
  | pass {s t : Server γ} (later : Later s t) (f : γ → γ) : Later s (t.change f)

/-- What is known of a server after calls. -/
structure Orderly (calls : List (Call γ)) (deeds : List (Deed γ)) (s : Server γ) : Prop where
  settled : Settled deeds s
  /-- The factory is only used in the first call that starts the server, if none has stopped it. -/
  untouched_of_make : ∀ call, .make ∈ Call.deeds s call →
    (∃ bound made, call = .start bound made) ∧ Untouched calls
  start_eq : ¬ Untouched calls → ∀ bound made, s.start bound made = (.error .alreadyStarted, s)
  start_unbound : Untouched calls → ∀ e made,
    s.start (.error e) made = (.error e, { state := .stopped })
  start_unmade : Untouched calls → ∀ address e,
    s.start (.ok address) (.error e) = (.error e, running address none)
  start_made : Untouched calls → ∀ address client,
    s.start (.ok address) (.ok client) =
      (.ok (FlagClient.becameReady client), running address (some client))
  /-- A client that is put into the server comes from its factory. -/
  made_of_fill : ∀ call client, .fill client ∈ Call.deeds s call →
    ∃ address, call = .start (.ok address) (.ok client)
  /-- The address does not change any more. -/
  address_eq : ∀ address, s.address = some address → ∀ t, s.Later t → t.address = some address
  /-- Stopping tells whether the server is not active any more. -/
  stop_fst : s.stop.1 = !s.stop.2.isActive
  /-- Stopping again does nothing. -/
  stop_stop : s.stop.2.stopping = [] ∧ s.stop.2.stop = s.stop
  /-- Dropping a server leaves nothing undone: its client has been destroyed. -/
  dropped : Settled (deeds ++ s.dropping) s.drop
  destructions_dropping : destructions (deeds ++ s.dropping) = if s.client.isSome then 1 else 0

theorem Stage.drop {deeds : List (Deed γ)} {s : Server γ} (h : Stage deeds s) :
    Stage (deeds ++ s.dropping) s.drop := by
  unfold Server.drop dropping
  split
  · exact h.stop
  · rw [List.append_nil]
    exact h

/-- A server is only new as long as no call has started or stopped it. -/
theorem Runs.untouched_iff {calls : List (Call γ)} {deeds : List (Deed γ)} {s : Server γ}
    (h : Runs calls deeds s) : Untouched calls ↔ s.state = .created := by
  induction h with
  | new => exact iff_of_true (fun _ mem => nomatch mem) rfl
  | pass _ _ ih => exact ih
  | @call calls deeds s runs call ih =>
    rw [untouched_append_iff, ih]
    cases call with
    | look => exact and_iff_left rfl
    | start bound made =>
      refine iff_of_false (fun touched => nomatch touched.2) ?_
      by_cases created : s.state = .created
      · obtain ⟨-, rfl⟩ := runs.stage.eq_of_created created
        cases bound with
        | error e => exact fun h => nomatch h
        | ok address => cases made <;> exact fun h => nomatch h
      · rw [Call.deeds, starting_of_ne created]
        exact created
    | stop =>
      refine iff_of_false (fun touched => nomatch touched.2) ?_
      -- Whatever else stopping does, it ends with the state.
      by_cases stopped : s.state = .stopped
      · rw [Call.deeds, stopping_of_stopped stopped]
        exact fun created => nomatch stopped.symm.trans created
      · rw [Call.deeds, stopping, if_neg stopped, afterAll, List.foldl_append]
        exact fun h => nomatch h

theorem Stage.later {deeds : List (Deed γ)} {s t : Server γ} (h : Stage deeds s)
    (later : s.Later t) : ∃ deeds', Stage deeds' t := by
  induction later with
  | refl => exact ⟨deeds, h⟩
  | pass _ f ih =>
    obtain ⟨deeds', stage⟩ := ih
    exact ⟨deeds', stage.change f⟩
  | call _ call ih =>
    obtain ⟨deeds', stage⟩ := ih
    cases call with
    | start bound made => exact ⟨_, stage.start bound made⟩
    | stop => exact ⟨_, stage.stop⟩
    | look => exact ⟨deeds', stage⟩

theorem Stage.address_eq {deeds : List (Deed γ)} {s t : Server γ} {address : Address}
    (h : Stage deeds s) (found : s.address = some address) (later : s.Later t) :
    t.address = some address := by
  induction later with
  | refl => exact found
  | pass _ f ih => exact ih
  | @call t later call kept =>
    obtain ⟨deeds', stage⟩ := h.later later
    cases call with
    | look => exact kept
    | start bound made =>
      have started : t.state ≠ .created := by
        rintro created
        obtain ⟨-, rfl⟩ := stage.eq_of_created created
        exact nomatch kept
      rw [Call.deeds, starting_of_ne started]
      exact kept
    | stop => cases stage <;> exact kept

/-- Whatever calls come to a server, what is done to it is in order. -/
theorem orderly_of_runs {calls : List (Call γ)} {deeds : List (Deed γ)} {s : Server γ}
    (h : Runs calls deeds s) : Orderly calls deeds s := by
  have stage := h.stage
  have fresh (untouched : Untouched calls) : s = {} :=
    (stage.eq_of_created (h.untouched_iff.1 untouched)).2
  have touched (used : ¬ Untouched calls) : s.state ≠ .created := mt h.untouched_iff.2 used
  constructor
  case settled => exact stage.settled
  case dropped => exact stage.drop.settled
  case start_eq =>
    intro used bound made
    rw [start, starting_of_ne (touched used)]
    rfl
  case start_unbound =>
    intro untouched e made
    rw [fresh untouched]
    rfl
  case start_unmade =>
    intro untouched address e
    rw [fresh untouched]
    rfl
  case start_made =>
    intro untouched address client
    rw [fresh untouched]
    rfl
  case address_eq => exact fun address found t later => stage.address_eq found later
  case stop_fst => rfl
  case stop_stop => cases stage <;> exact ⟨rfl, rfl⟩
  case destructions_dropping =>
    cases stage <;> simp [destructions, dropping, stopping, up, running, halted]
  case untouched_of_make =>
    intro call makes
    cases call with
    | look => exact nomatch makes
    | stop => cases stage <;> simp [Call.deeds, stopping, running, halted] at makes
    | start bound made =>
      refine ⟨⟨bound, made, rfl⟩, h.untouched_iff.2 (Decidable.byContradiction fun used => ?_)⟩
      rw [Call.deeds, starting_of_ne used] at makes
      exact nomatch makes
  case made_of_fill =>
    intro call client fills
    cases call with
    | look => exact nomatch fills
    | stop => cases stage <;> simp [Call.deeds, stopping, running, halted] at fills
    | start bound made =>
      by_cases created : s.state = .created
      · obtain ⟨-, rfl⟩ := stage.eq_of_created created
        cases bound with
        | error e => simp [Call.deeds, starting] at fills
        | ok address =>
          cases made with
          | error e => simp [Call.deeds, starting] at fills
          | ok client' =>
            obtain rfl : client = client' := by simpa [Call.deeds, starting] using fills
            exact ⟨address, rfl⟩
      · rw [Call.deeds, starting_of_ne created] at fills
        exact nomatch fills

end Calls

/-- A server that is looked at, started, stopped, and started once more. -/
theorem orderly_stopped :
    let address : Address := ⟨"127.0.0.1", 4000⟩
    let client : StubClient := {}
    let again : Call StubClient := .start (.ok address) (.error .missingSdkKey)
    let calls := [.look, .start (.ok address) (.ok client), .stop, again]
    let deeds := up address ++ [.make, .fill client] ++ [.hush, .destroy, .halt, .enter .stopped]
    let server := halted address (some { client with initialized := false })
    Runs calls deeds server ∧ Orderly calls deeds server := by
  intro address client again calls deeds server
  have runs : Runs calls deeds server :=
    (((Runs.new.call .look).call (.start (.ok address) (.ok client))).call .stop).call again
  exact ⟨runs, orderly_of_runs runs⟩

end Server

end FlagHost

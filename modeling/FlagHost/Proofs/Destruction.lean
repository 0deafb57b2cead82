import FlagHost.Proofs.Readiness

/-!
# Clients that were destroyed

`Finished l l'` says what is left of a client at a point `l'` of its life, if a call that destroys
it has returned by `l`. Main statement: this is so whenever the call came, in the middle of a fetch,
between a publication and its note, or when the poller had ended on its own. The call waits for the
poller before it drops the configuration, and a poller that has ended publishes and asks for nothing
more.
-/

namespace FlagHost

namespace Life

/-- A client that was destroyed by the first point of its life, at the second one. -/
structure Finished (l l' : Life) : Prop where
  snapshot : l'.store.snapshot = none
  isInitialized : Client.isInitialized ⟨l'.polling⟩ = false
  becameReady : Client.becameReady ⟨l'.polling⟩ = false
  /-- A wait comes to nothing that looks at the store now, also if it was over before. -/
  isInitializedAfter : ∀ readiness : Readiness,
    l'.store.isInitializedAfter readiness.wait = false
  value : ∀ kind key target default, l'.store.value kind key target default = default
  sent : l'.sent = l.sent

variable {l l' : Life}

/-- What has happened stays in the log. -/
theorem Step.log_suffix (h : l.Step l') : l.log <:+ l'.log := by
  rcases h with step | step
  · cases step with
    | work => exact List.suffix_append _ _
    | hear => exact List.suffix_cons _ _
    | _ => exact List.suffix_rfl
  · obtain ⟨-, -, ⟨-, log⟩ | ⟨-, log⟩⟩ := step.keeps
    · exact log ▸ List.suffix_rfl
    · exact log ▸ List.suffix_cons _ _

theorem Later.log_suffix (h : l.Later l') : l.log <:+ l'.log := by
  induction h with
  | refl => exact List.suffix_rfl
  | tail _ step ih => exact ih.trans step.log_suffix

theorem sent_eq_answered (ended : l.poller = .ended) : l.sent = l.answered := by
  simp [sent, ended, Poller.pending?]

/-- A destroyed client is over, now and later, in whichever order it and its poller took their
steps before. -/
theorem finished_of_lives (lives : Lives l) (returned : .cleared ∈ l.log) (later : l.Later l') :
    l.Finished l' := by
  obtain ⟨ended, -, -⟩ := lives.guarded.cleared returned
  obtain ⟨ended', -, answered⟩ := later.of_ended ended
  obtain ⟨-, -, empty⟩ := (lives.later later).guarded.cleared (later.log_suffix.subset returned)
  have unserved (readiness : Readiness) : l'.store.isInitializedAfter readiness.wait = false := by
    refine eq_false_of_ne_true fun initialized => ?_
    obtain ⟨-, configuration, held⟩ := (l'.store.isInitializedAfter_wait_iff _).1 initialized
    exact nomatch empty.symm.trans held
  constructor
  case snapshot => exact empty
  case isInitialized => exact congrArg Option.isSome empty
  case becameReady =>
    rw [Client.becameReady_eq]
    exact unserved l'.readiness
  case isInitializedAfter => exact unserved
  case value =>
    intro kind key target default
    rw [Store.value, empty]
    rfl
  case sent => rw [sent_eq_answered ended', sent_eq_answered ended, answered]

/-- A client that was destroyed between a publication and its note. -/
def destroyed : Life where
  poller := .ended
  readiness := some (.ok ())
  handle := false
  log := [.cleared, .stopped, .published {}, .fetched (.ok {})]

theorem lives_destroyed : Lives destroyed := by
  have succeeds : Lives { poller := .fetching (.done (.ok {}, Polling.neighbour)) } := .start _
  have publishes := succeeds.works (.succeed rfl)
  have notes := publishes.works (.publish rfl)
  have telling := notes.step (.inr (.call rfl rfl))
  have joining := telling.step (.inr (.tell rfl))
  have rests := joining.works (.note rfl)
  have ended := rests.step (.inl (.hear rfl rfl))
  have clearing := ended.step (.inr (.join rfl rfl))
  exact clearing.step (.inr (.clear rfl))

/-- The client is destroyed once more. -/
theorem later_destroyed : destroyed.Later { destroyed with log := .cleared :: destroyed.log } :=
  .head (.inr (.callAgain rfl rfl)) (.single (.inr (.clear rfl)))

theorem finished_destroyed :
    .cleared ∈ destroyed.log ∧ destroyed.readiness = some (.ok ()) ∧
      destroyed.Finished { destroyed with log := .cleared :: destroyed.log } :=
  ⟨List.mem_cons_self, rfl,
    finished_of_lives lives_destroyed List.mem_cons_self later_destroyed⟩

end Life

end FlagHost

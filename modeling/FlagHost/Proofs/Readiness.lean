import FlagHost.Proofs.Lifetime

/-!
# When a client is ready

What the log of a life tells about the state: whether the loop of the poller has been left, what is
noted as readiness, and which configuration is served. `Accounts` puts it together. Main statement:
it holds at every point of every life, whatever the fetches come to.

The readiness, the store and the place of the poller change in different steps, so each of them has
an invariant of its own that the others are read from: `Closed` for the loop, `Noted` for the
readiness, `Shown` for the store.
-/

namespace FlagHost

/-- What a wait for the first result comes to. If nothing is noted, its time is over. -/
def Readiness.wait : Readiness → Except Error Bool
  | some (.ok ()) => .ok true
  | some (.error e) => .error e
  | none => .ok false

/-- Whether a client is initialized after a wait, which was over before the store is looked at. -/
def Store.isInitializedAfter (store : Store) : Except Error Bool → Bool
  | .ok ready => ready && store.snapshot.isSome
  | .error _ => false

theorem Store.isInitializedAfter_wait_iff (store : Store) (readiness : Readiness) :
    store.isInitializedAfter readiness.wait = true ↔
      readiness = some (.ok ()) ∧ ∃ configuration, store.snapshot = some configuration := by
  rw [← Option.isSome_iff_exists]
  rcases readiness with _ | _ | _ <;> simp [isInitializedAfter, Readiness.wait]

theorem Client.becameReady_eq (c : Client) :
    c.becameReady = c.store.isInitializedAfter c.polling.readiness.wait := by
  unfold becameReady
  rcases c.polling.readiness with _ | _ | _ <;> rfl

theorem Readiness.update_ok (readiness : Readiness) :
    readiness.update (.ok ()) = some (.ok ()) := by
  rcases readiness with _ | _ | _ <;> rfl

theorem Readiness.update_error_eq_ok_iff (readiness : Readiness) (e : Error) :
    readiness.update (.error e) = some (.ok ()) ↔ readiness = some (.ok ()) := by
  rcases readiness with _ | _ | _ <;> simp [update]

theorem Readiness.update_error_eq_error {readiness : Readiness} {e e' : Error}
    (h : readiness.update (.error e) = some (.error e')) :
    readiness ≠ some (.ok ()) ∧ e = e' := by
  rcases readiness with _ | _ | _ <;> simp_all [update]

/-- The poller is about to publish a configuration. -/
def Poller.isPublishing : Poller → Bool
  | .publishing _ _ => true
  | _ => false

/-- The poller is about to note that it published a configuration. -/
def Poller.isNoting : Poller → Bool
  | .noting _ => true
  | _ => false

/-- A fetch brought a configuration. -/
def Succeeded (log : List Event) : Prop := ∃ configuration, .fetched (.ok configuration) ∈ log

/-- A configuration was published. -/
def Published (log : List Event) : Prop := ∃ configuration, .published configuration ∈ log

theorem succeeded_cons_iff (event : Event) (log : List Event) :
    Succeeded (event :: log) ↔
      (∃ configuration, event = .fetched (.ok configuration)) ∨ Succeeded log := by
  simp only [Succeeded, List.mem_cons, exists_or, eq_comm]

theorem published_cons_iff (event : Event) (log : List Event) :
    Published (event :: log) ↔
      (∃ configuration, event = .published configuration) ∨ Published log := by
  simp only [Published, List.mem_cons, exists_or, eq_comm]

/-- Behind the event the loop of the poller is over. -/
def Event.Closes : Event → Prop
  | .unbuilt _ => True
  | .fetched (.error e) => e.isFinal = true
  | .stopped => True
  | _ => False

/-- The configuration was published, and no other one since, and it was not dropped. -/
inductive Serves : List Event → Configuration → Prop where
  | published (configuration : Configuration) (earlier : List Event) :
      Serves (.published configuration :: earlier) configuration
  | keeps {event : Event} {earlier : List Event} {configuration : Configuration}
      (other : ∀ configuration', event ≠ .published configuration') (keeps : event ≠ .cleared)
      (serves : Serves earlier configuration) : Serves (event :: earlier) configuration

/-- A configuration that was published is served, or a later one, as long as none is dropped. -/
theorem exists_serves {log : List Event} (kept : .cleared ∉ log)
    (published : Published log) : ∃ configuration, Serves log configuration := by
  induction log with
  | nil =>
    obtain ⟨_, member⟩ := published
    exact nomatch member
  | cons event earlier ih =>
    obtain ⟨keeps, kept⟩ := not_or.1 (mt List.mem_cons.2 kept)
    by_cases now : ∃ configuration, event = .published configuration
    · obtain ⟨configuration, rfl⟩ := now
      exact ⟨configuration, .published configuration earlier⟩
    · obtain ⟨configuration, member⟩ := published
      have before : .published configuration ∈ earlier :=
        (List.mem_cons.1 member).resolve_left fun same => now ⟨configuration, same.symm⟩
      obtain ⟨served, serves⟩ := ih kept ⟨configuration, before⟩
      exact ⟨served, .keeps (fun other same => now ⟨other, same⟩) (Ne.symm keeps) serves⟩

namespace Life

variable {l l' : Life}

/-- What the poller and the store are left with by the one who calls the client. -/
theorem CallerStep.keeps (h : l.CallerStep l') :
    l'.poller = l.poller ∧ l'.readiness = l.readiness ∧
      (l'.store = l.store ∧ l'.log = l.log ∨
        l'.store = l.store.clear ∧ l'.log = .cleared :: l.log) := by
  cases h with
  | tell =>
    rw [tell_eq]
    exact ⟨rfl, rfl, .inl ⟨rfl, rfl⟩⟩
  | drop =>
    rw [tell_eq]
    exact ⟨rfl, rfl, .inl ⟨rfl, rfl⟩⟩
  | clear => exact ⟨rfl, rfl, .inr ⟨rfl, rfl⟩⟩
  | _ => exact ⟨rfl, rfl, .inl ⟨rfl, rfl⟩⟩

/-! ## The loop -/

/-- What the log tells about the loop of the poller. -/
structure Closed (l : Life) : Prop where
  runs : l.poller.isOver = false → ∀ event ∈ l.log, ¬ event.Closes
  left : l.poller.isOver = true → ∃ event ∈ l.log, event.Closes
  /-- Behind an event that closes the loop nothing happens but that the configuration is dropped. -/
  last : l.log.Pairwise fun later earlier => earlier.Closes → later = .cleared
  failing : ∀ e, l.poller = .failing e → .unbuilt e ∈ l.log ∨ .fetched (.error e) ∈ l.log

/-- An event of a loop that runs closes the loop or leaves it running. -/
theorem Closed.cons (h : l.Closed) (running : l.poller.isOver = false) {event : Event}
    (log : l'.log = event :: l.log) (closes : event.Closes ↔ l'.poller.isOver = true)
    (failing : ∀ e, l'.poller = .failing e → event = .fetched (.error e)) : l'.Closed where
  runs goes := by
    rw [log]
    refine List.forall_mem_cons.2 ⟨fun closed => ?_, h.runs running⟩
    exact absurd (closes.1 closed) (by simp [goes])
  left left := by
    rw [log]
    exact ⟨event, List.mem_cons_self, closes.2 left⟩
  last := by
    rw [log]
    exact List.pairwise_cons.2
      ⟨fun earlier member closes => absurd closes (h.runs running earlier member), h.last⟩
  failing e fails := by
    rw [log, failing e fails]
    exact .inr List.mem_cons_self

theorem Closed.congr (h : l.Closed) (log : l'.log = l.log)
    (isOver : l'.poller.isOver = l.poller.isOver)
    (failing : ∀ e, l'.poller = .failing e → l.poller = .failing e) : l'.Closed where
  runs goes := by
    rw [log]
    exact h.runs (isOver.symm.trans goes)
  left left := by
    rw [log]
    exact h.left (isOver.symm.trans left)
  last := by
    rw [log]
    exact h.last
  failing e fails := by
    rw [log]
    exact h.failing e (failing e fails)

theorem Closed.of_works (h : l.Closed) (works : l.Works l') : l'.Closed := by
  cases works with
  | succeed fetched =>
    refine h.cons (congrArg Poller.isOver fetched) rfl ?_ fun e fails => nomatch fails
    simp [Event.Closes, Poller.isOver]
  | fail fetched isFinal =>
    refine h.cons (congrArg Poller.isOver fetched) rfl ?_ fun e fails => ?_
    · simp [Event.Closes, Poller.isOver, isFinal]
    · rw [Poller.failing.inj fails]
  | retry fetched isFinal =>
    refine h.cons (congrArg Poller.isOver fetched) rfl ?_ fun e fails => nomatch fails
    simp [Event.Closes, Poller.isOver, isFinal]
  | publish publishes =>
    refine h.cons (congrArg Poller.isOver publishes) rfl ?_ fun e fails => nomatch fails
    simp [Event.Closes, Poller.isOver]
  | note notes =>
    exact h.congr rfl (congrArg Poller.isOver notes).symm fun e fails => nomatch fails
  | giveUp fails =>
    exact h.congr rfl (congrArg Poller.isOver fails).symm fun e fails => nomatch fails

theorem Closed.of_pollerStep (h : l.Closed) (step : l.PollerStep l') : l'.Closed := by
  cases step with
  | reply asks =>
    exact h.congr rfl (congrArg Poller.isOver asks).symm fun e fails => nomatch fails
  | work busy step => exact h.of_works (works_of_step? busy step)
  | hear rests =>
    refine h.cons (congrArg Poller.isOver rests) rfl ?_ fun e fails => nomatch fails
    simp [Event.Closes, Poller.isOver]
  | wake rests =>
    exact h.congr rfl (congrArg Poller.isOver rests).symm fun e fails => nomatch fails

theorem Closed.of_callerStep (h : l.Closed) (step : l.CallerStep l') : l'.Closed := by
  obtain ⟨poller, -, ⟨-, log⟩ | ⟨-, log⟩⟩ := step.keeps
  · exact h.congr log (congrArg Poller.isOver poller) fun e fails => poller.symm.trans fails
  · have member {event : Event} (member : event ∈ l.log) : event ∈ l'.log := by
      rw [log]
      exact List.mem_cons_of_mem _ member
    constructor
    case runs =>
      rw [poller, log]
      exact fun goes => List.forall_mem_cons.2 ⟨id, h.runs goes⟩
    case left =>
      rw [poller]
      intro left
      obtain ⟨event, before, closes⟩ := h.left left
      exact ⟨event, member before, closes⟩
    case last =>
      rw [log]
      exact List.pairwise_cons.2 ⟨fun _ _ _ => rfl, h.last⟩
    case failing =>
      rw [poller]
      exact fun e fails => (h.failing e fails).imp member member

/-! ## What is noted -/

/-- What the log tells about the readiness. -/
structure Noted (l : Life) : Prop where
  published : l.readiness = some (.ok ()) → Published l.log
  /-- What was published is noted, with a moment in between. -/
  noted : l.poller.isNoting = false → Published l.log → l.readiness = some (.ok ())
  noting : l.poller.isNoting = true → Published l.log
  succeeded : Published l.log → Succeeded l.log
  /-- What was fetched is published, with a moment in between. -/
  fetched : l.poller.isPublishing = false → Succeeded l.log → Published l.log
  publishing : l.poller.isPublishing = true → Succeeded l.log
  failed : ∀ e, l.readiness = some (.error e) →
    l.poller = .ended ∧ ¬ Published l.log ∧ (.unbuilt e ∈ l.log ∨ .fetched (.error e) ∈ l.log)

theorem Noted.not_failed (h : l.Noted) (runs : l.poller ≠ .ended) (e : Error) :
    l.readiness ≠ some (.error e) := fun failed => runs (h.failed e failed).1

/-- A step that has nothing to do with what is published. -/
theorem Noted.of_idle (h : l.Noted) (runs : l.poller ≠ .ended)
    (readiness : l'.readiness = l.readiness) (published : Published l'.log ↔ Published l.log)
    (succeeded : Succeeded l'.log ↔ Succeeded l.log)
    (noting : l.poller.isNoting = false) (noting' : l'.poller.isNoting = false)
    (publishing : l.poller.isPublishing = false)
    (publishing' : l'.poller.isPublishing = false) : l'.Noted where
  published := by
    rw [readiness, published]
    exact h.published
  noted _ := by
    rw [readiness, published]
    exact h.noted noting
  noting := by simp [noting']
  succeeded := by
    rw [published, succeeded]
    exact h.succeeded
  fetched _ := by
    rw [published, succeeded]
    exact h.fetched publishing
  publishing := by simp [publishing']
  failed := by
    rw [readiness]
    exact fun e failed => absurd failed (h.not_failed runs e)

theorem Noted.of_works (h : l.Noted) (closed : l.Closed) (works : l.Works l') : l'.Noted := by
  cases works with
  | @succeed configuration connector fetched =>
    have runs : l.poller ≠ .ended := by simp [fetched]
    have noting : l.poller.isNoting = false := congrArg Poller.isNoting fetched
    have succeeded : Succeeded (.fetched (.ok configuration) :: l.log) :=
      ⟨configuration, List.mem_cons_self⟩
    have published : Published (.fetched (.ok configuration) :: l.log) ↔ Published l.log := by
      simp [published_cons_iff]
    constructor
    case published => exact fun ready => published.2 (h.published ready)
    case noted => exact fun _ before => h.noted noting (published.1 before)
    case noting => exact fun noting => nomatch noting
    case succeeded => exact fun _ => succeeded
    case fetched => exact fun idle => nomatch idle
    case publishing => exact fun _ => succeeded
    case failed => exact fun e failed => absurd failed (h.not_failed runs e)
  | fail fetched =>
    have runs : l.poller ≠ .ended := by simp [fetched]
    exact h.of_idle runs rfl (by simp [published_cons_iff]) (by simp [succeeded_cons_iff])
      (congrArg Poller.isNoting fetched) rfl (congrArg Poller.isPublishing fetched) rfl
  | retry fetched =>
    have runs : l.poller ≠ .ended := by simp [fetched]
    exact h.of_idle runs rfl (by simp [published_cons_iff]) (by simp [succeeded_cons_iff])
      (congrArg Poller.isNoting fetched) rfl (congrArg Poller.isPublishing fetched) rfl
  | @publish configuration connector publishes =>
    have runs : l.poller ≠ .ended := by simp [publishes]
    have published : Published (.published configuration :: l.log) :=
      ⟨configuration, List.mem_cons_self⟩
    have succeeded : Succeeded (.published configuration :: l.log) :=
      (succeeded_cons_iff _ _).2 (.inr (h.publishing (congrArg Poller.isPublishing publishes)))
    constructor
    case published => exact fun _ => published
    case noted => exact fun idle => nomatch idle
    case noting => exact fun _ => published
    case succeeded => exact fun _ => succeeded
    case fetched => exact fun _ _ => published
    case publishing => exact fun publishing => nomatch publishing
    case failed => exact fun e failed => absurd failed (h.not_failed runs e)
  | note notes =>
    have published := h.noting (congrArg Poller.isNoting notes)
    have ready := l.readiness.update_ok
    constructor
    case published => exact fun _ => published
    case noted => exact fun _ _ => ready
    case noting => exact fun _ => published
    case succeeded => exact h.succeeded
    case fetched => exact fun _ _ => published
    case publishing => exact fun publishing => nomatch publishing
    case failed => exact fun e failed => nomatch ready.symm.trans failed
  | @giveUp e fails =>
    have noting : l.poller.isNoting = false := congrArg Poller.isNoting fails
    have ready := l.readiness.update_error_eq_ok_iff e
    constructor
    case published => exact fun noted => h.published (ready.1 noted)
    case noted => exact fun _ published => ready.2 (h.noted noting published)
    case noting => exact fun noting => nomatch noting
    case succeeded => exact h.succeeded
    case fetched => exact fun _ => h.fetched (congrArg Poller.isPublishing fails)
    case publishing => exact fun publishing => nomatch publishing
    case failed =>
      intro e' failed
      obtain ⟨unready, rfl⟩ := Readiness.update_error_eq_error failed
      exact ⟨rfl, mt (h.noted noting) unready, closed.failing e fails⟩

theorem Noted.of_pollerStep (h : l.Noted) (closed : l.Closed) (step : l.PollerStep l') :
    l'.Noted := by
  have runs := step.ne_ended
  cases step with
  | reply asks =>
    exact h.of_idle runs rfl .rfl .rfl (congrArg Poller.isNoting asks) rfl
      (congrArg Poller.isPublishing asks) rfl
  | work busy step => exact h.of_works closed (works_of_step? busy step)
  | hear rests =>
    exact h.of_idle runs rfl (by simp [published_cons_iff]) (by simp [succeeded_cons_iff])
      (congrArg Poller.isNoting rests) rfl (congrArg Poller.isPublishing rests) rfl
  | wake rests =>
    exact h.of_idle runs rfl .rfl .rfl (congrArg Poller.isNoting rests) rfl
      (congrArg Poller.isPublishing rests) rfl

theorem Noted.congr (h : l.Noted) (poller : l'.poller = l.poller)
    (readiness : l'.readiness = l.readiness) (published : Published l'.log ↔ Published l.log)
    (succeeded : Succeeded l'.log ↔ Succeeded l.log) (keeps : l.log ⊆ l'.log) : l'.Noted where
  published := by
    rw [readiness, published]
    exact h.published
  noted := by
    rw [poller, readiness, published]
    exact h.noted
  noting := by
    rw [poller, published]
    exact h.noting
  succeeded := by
    rw [published, succeeded]
    exact h.succeeded
  fetched := by
    rw [poller, published, succeeded]
    exact h.fetched
  publishing := by
    rw [poller, succeeded]
    exact h.publishing
  failed := by
    rw [poller, readiness, published]
    intro e failed
    obtain ⟨ended, unpublished, told⟩ := h.failed e failed
    exact ⟨ended, unpublished, told.imp (@keeps _) (@keeps _)⟩

theorem Noted.of_callerStep (h : l.Noted) (step : l.CallerStep l') : l'.Noted := by
  obtain ⟨poller, readiness, ⟨-, log⟩ | ⟨-, log⟩⟩ := step.keeps
  · refine h.congr poller readiness ?_ ?_ ?_
    · rw [log]
    · rw [log]
    · exact log ▸ List.Subset.refl l.log
  · refine h.congr poller readiness ?_ ?_ ?_
    · simp [log, published_cons_iff]
    · simp [log, succeeded_cons_iff]
    · exact log ▸ List.subset_cons_self _ l.log

/-! ## What is served -/

/-- The store holds what the log says. -/
def Shown (l : Life) : Prop :=
  ∀ configuration, l.store.snapshot = some configuration ↔ Serves l.log configuration

theorem Shown.congr (h : l.Shown) (store : l'.store = l.store) (log : l'.log = l.log) :
    l'.Shown := by
  unfold Shown
  rw [store, log]
  exact h

theorem Shown.cons (h : l.Shown) (store : l'.store = l.store) {event : Event}
    (log : l'.log = event :: l.log) (other : ∀ configuration, event ≠ .published configuration)
    (keeps : event ≠ .cleared) : l'.Shown := by
  intro configuration
  rw [store, log, h configuration]
  constructor
  · exact .keeps other keeps
  · intro serves
    cases serves with
    | published => exact absurd rfl (other _)
    | keeps _ _ serves => exact serves

theorem Shown.of_works (h : l.Shown) (works : l.Works l') : l'.Shown := by
  cases works with
  | succeed => exact h.cons rfl rfl (fun _ same => nomatch same) fun same => nomatch same
  | fail => exact h.cons rfl rfl (fun _ same => nomatch same) fun same => nomatch same
  | retry => exact h.cons rfl rfl (fun _ same => nomatch same) fun same => nomatch same
  | @publish configuration =>
    intro configuration'
    change some configuration = some configuration' ↔ _
    constructor
    · intro same
      cases same
      exact .published configuration l.log
    · intro serves
      cases serves with
      | published => rfl
      | keeps other => exact absurd rfl (other _)
  | note => exact h.congr rfl rfl
  | giveUp => exact h.congr rfl rfl

theorem Shown.of_pollerStep (h : l.Shown) (step : l.PollerStep l') : l'.Shown := by
  cases step with
  | reply => exact h.congr rfl rfl
  | work busy step => exact h.of_works (works_of_step? busy step)
  | hear => exact h.cons rfl rfl (fun _ same => nomatch same) fun same => nomatch same
  | wake => exact h.congr rfl rfl

theorem Shown.of_callerStep (h : l.Shown) (step : l.CallerStep l') : l'.Shown := by
  obtain ⟨-, -, ⟨store, log⟩ | ⟨store, log⟩⟩ := step.keeps
  · exact h.congr store log
  · intro configuration
    rw [store, log]
    refine iff_of_false (fun held => nomatch held) fun serves => ?_
    cases serves with
    | keeps _ keeps => exact absurd rfl keeps

theorem Lives.closed (h : Lives l) : l.Closed := by
  induction h with
  | start => constructor <;> simp [Poller.isOver]
  | unbuilt => constructor <;> simp [Poller.isOver, Event.Closes]
  | step _ step ih =>
    rcases step with step | step
    · exact ih.of_pollerStep step
    · exact ih.of_callerStep step

theorem Lives.noted (h : Lives l) : l.Noted := by
  induction h with
  | start => constructor <;> simp [Published, Succeeded, Poller.isNoting, Poller.isPublishing]
  | unbuilt => constructor <;> simp [Published, Succeeded, Poller.isNoting, Poller.isPublishing]
  | step lives step ih =>
    rcases step with step | step
    · exact ih.of_pollerStep lives.closed step
    · exact ih.of_callerStep step

theorem Lives.shown (h : Lives l) : l.Shown := by
  induction h with
  | start => exact fun _ => iff_of_false (fun held => nomatch held) fun serves => nomatch serves
  | unbuilt =>
    refine fun _ => iff_of_false (fun held => nomatch held) fun serves => ?_
    cases serves with
    | keeps _ _ serves => exact nomatch serves
  | step _ step ih =>
    rcases step with step | step
    · exact ih.of_pollerStep step
    · exact ih.of_callerStep step

/-! ## The whole account -/

/-- A readiness that was noted is not taken back. -/
theorem Step.ready (h : l.Step l') (ready : l.readiness = some (.ok ())) :
    l'.readiness = some (.ok ()) := by
  rcases h with step | step
  · cases step with
    | work busy step =>
      have works := works_of_step? busy step
      generalize l.worked _ = l'' at works
      cases works with
      | note => exact l.readiness.update_ok
      | giveUp => exact (l.readiness.update_error_eq_ok_iff _).2 ready
      | _ => exact ready
    | _ => exact ready
  · exact step.keeps.2.1.trans ready

theorem Later.ready (h : l.Later l') (ready : l.readiness = some (.ok ())) :
    l'.readiness = some (.ok ()) := by
  induction h with
  | refl => exact ready
  | tail _ step ih => exact step.ready ih

theorem Closed.isOver_iff (h : l.Closed) :
    l.poller.isOver = true ↔
      .stopped ∈ l.log ∨ .fetched (.error .unauthorized) ∈ l.log ∨
        .fetched (.error .invalidUrl) ∈ l.log ∨ ∃ e, .unbuilt e ∈ l.log := by
  have left {event : Event} (member : event ∈ l.log) (closes : event.Closes) :
      l.poller.isOver = true :=
    eq_true_of_ne_false fun runs => h.runs runs event member closes
  constructor
  · intro left
    obtain ⟨event, member, closes⟩ := h.left left
    cases event with
    | unbuilt e => exact .inr (.inr (.inr ⟨e, member⟩))
    | stopped => exact .inl member
    | fetched result =>
      cases result with
      | ok => exact False.elim closes
      | error e =>
        cases e with
        | unauthorized => exact .inr (.inl member)
        | invalidUrl => exact .inr (.inr (.inl member))
        | _ => exact nomatch closes
    | published => exact False.elim closes
    | cleared => exact False.elim closes
  · rintro (member | member | member | ⟨e, member⟩)
    · exact left member trivial
    · exact left member rfl
    · exact left member rfl
    · exact left member trivial

/-- At rest the poller looks into the channel. -/
theorem PollerStep.of_resting {connector : Connector} (h : l.PollerStep l')
    (rests : l.poller = .resting connector) :
    l.hears = true ∧ l'.poller = .ended ∧ l'.log = .stopped :: l.log ∨
      l.hears = false ∧ ∃ talk, l'.poller = .fetching talk := by
  cases h with
  | reply asks => exact nomatch rests.symm.trans asks
  | work busy => exact absurd rests (busy connector)
  | hear _ heard => exact .inl ⟨heard, rfl, rfl⟩
  | wake _ quiet talk => exact .inr ⟨quiet, talk, rfl⟩

theorem exists_pollerStep (runs : l.poller ≠ .ended) : ∃ l', l.PollerStep l' := by
  cases at_poller : l.poller with
  | fetching talk =>
    cases talk with
    | ask => exact ⟨_, .reply at_poller .broken⟩
    | done result =>
      obtain ⟨result, connector⟩ := result
      cases result with
      | ok => exact ⟨_, (Works.succeed at_poller).pollerStep⟩
      | error e =>
        cases isFinal : e.isFinal with
        | true => exact ⟨_, (Works.fail at_poller isFinal).pollerStep⟩
        | false => exact ⟨_, (Works.retry at_poller isFinal).pollerStep⟩
  | publishing => exact ⟨_, (Works.publish at_poller).pollerStep⟩
  | noting => exact ⟨_, (Works.note at_poller).pollerStep⟩
  | failing => exact ⟨_, (Works.giveUp at_poller).pollerStep⟩
  | resting connector =>
    cases hears : l.hears with
    | true => exact ⟨_, .hear at_poller hears⟩
    | false => exact ⟨_, .wake at_poller hears connector.fetch⟩
  | ended => exact absurd at_poller runs

/-- What is known of a client at a point of its life. -/
structure Accounted (l : Life) : Prop where
  /-- The loop of the poller is left when it hears that it is to stop or a fetch fails for good, and
  for no other error. If the poller cannot be made, the loop is not entered. -/
  isOver_iff : l.poller.isOver = true ↔
    .stopped ∈ l.log ∨ .fetched (.error .unauthorized) ∈ l.log ∨
      .fetched (.error .invalidUrl) ∈ l.log ∨ ∃ e, .unbuilt e ∈ l.log
  /-- It is left for the first of these: behind it there is nothing but a configuration that is
  dropped. -/
  last : l.log.Pairwise fun later earlier => earlier.Closes → later = .cleared
  /-- The poller ends where it hears that it is to stop, and otherwise fetches again. -/
  resting : ∀ connector, l.poller = .resting connector → ∀ l', l.PollerStep l' →
    l.hears = true ∧ l'.poller = .ended ∧ l'.log = .stopped :: l.log ∨
      l.hears = false ∧ ∃ talk, l'.poller = .fetching talk
  exists_pollerStep : l.poller ≠ .ended → ∃ l', l.PollerStep l'
  /-- A success is noted behind a publication. -/
  published : l.readiness = some (.ok ()) → Published l.log
  /-- It is not taken back. -/
  ready : l.readiness = some (.ok ()) → ∀ l', l.Later l' → l'.readiness = some (.ok ())
  /-- Between two polls, and behind the last one, it is noted exactly if a poll succeeded. -/
  ready_iff : l.poller.isPublishing = false → l.poller.isNoting = false →
    (l.readiness = some (.ok ()) ↔ Succeeded l.log)
  /-- An error is noted by a poller that fetches no more and has published nothing. -/
  failed : ∀ e, l.readiness = some (.error e) →
    (∀ l', l.Later l' → l'.poller = .ended) ∧ ¬ Published l.log ∧
      (.unbuilt e ∈ l.log ∨ .fetched (.error e) ∈ l.log)
  snapshot_eq_some_iff :
    ∀ configuration, l.store.snapshot = some configuration ↔ Serves l.log configuration
  /-- After an error for good the configuration that was published last is served, until it is
  dropped. -/
  serves : .fetched (.error .unauthorized) ∈ l.log ∨ .fetched (.error .invalidUrl) ∈ l.log →
    Succeeded l.log → .cleared ∉ l.log →
      ∃ configuration, Serves l.log configuration ∧
        ∀ kind key target default, l.store.value kind key target default =
          ((configuration.variation? key target kind).bind fun v => kind.read? v.value).getD default
  /-- A wait that is over now, and looks at the store then or later. -/
  isInitializedAfter_iff : ∀ l', l.Later l' →
    (l'.store.isInitializedAfter l.readiness.wait = true ↔
      l.readiness = some (.ok ()) ∧ ∃ configuration, l'.store.snapshot = some configuration)
  becameReady_iff : Client.becameReady ⟨l.polling⟩ = true ↔
    l.readiness = some (.ok ()) ∧ ∃ configuration, l.store.snapshot = some configuration

/-- Whatever the fetches come to and whenever the client is destroyed, its log accounts for its
state. -/
theorem accounted_of_lives (lives : Lives l) : l.Accounted := by
  have closed := lives.closed
  have noted := lives.noted
  constructor
  case isOver_iff => exact closed.isOver_iff
  case last => exact closed.last
  case resting => exact fun connector rests l' step => step.of_resting rests
  case exists_pollerStep => exact exists_pollerStep
  case published => exact noted.published
  case ready => exact fun ready l' later => later.ready ready
  case ready_iff =>
    intro unpublishing unnoting
    exact ⟨fun ready => noted.succeeded (noted.published ready),
      fun succeeded => noted.noted unnoting (noted.fetched unpublishing succeeded)⟩
  case failed =>
    intro e failed
    obtain ⟨ended, told⟩ := noted.failed e failed
    exact ⟨fun l' later => (later.of_ended ended).1, told⟩
  case snapshot_eq_some_iff => exact lives.shown
  case serves =>
    intro fatal succeeded kept
    have left := closed.isOver_iff.2 (.inr (fatal.imp_right .inl))
    have unpublishing : l.poller.isPublishing = false := by
      cases at_poller : l.poller with
      | publishing => simp [at_poller, Poller.isOver] at left
      | _ => rfl
    obtain ⟨configuration, serves⟩ := exists_serves kept (noted.fetched unpublishing succeeded)
    refine ⟨configuration, serves, fun kind key target default => ?_⟩
    rw [Store.value, (lives.shown configuration).2 serves]
    rfl
  case isInitializedAfter_iff => exact fun l' _ => l'.store.isInitializedAfter_wait_iff _
  case becameReady_iff =>
    rw [Client.becameReady_eq]
    exact l.store.isInitializedAfter_wait_iff l.readiness

/-- A client whose poller published a configuration, and was denied a token later. -/
def denied : Life where
  poller := .ended
  store := ⟨some {}⟩
  readiness := some (.ok ())
  log := [.fetched (.error .unauthorized), .published {}, .fetched (.ok {})]

theorem lives_denied : Lives denied := by
  have succeeds : Lives { poller := .fetching (.done (.ok {}, Polling.neighbour)) } := .start _
  have publishes := succeeds.works (.succeed rfl)
  have notes := publishes.works (.publish rfl)
  have rests := notes.works (.note rfl)
  have fetches := rests.step
    (.inl (.wake rfl rfl (.done (.error .unauthorized, Polling.neighbour))))
  have fails := fetches.works (.fail rfl rfl)
  exact fails.works (.giveUp rfl)

theorem accounted_denied :
    denied.poller.isOver = true ∧ denied.readiness = some (.ok ()) ∧
      denied.store.snapshot = some {} ∧ Accounted denied :=
  ⟨rfl, rfl, rfl, accounted_of_lives lives_denied⟩

end Life

end FlagHost

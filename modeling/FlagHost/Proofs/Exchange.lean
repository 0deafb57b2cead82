import FlagHost.Http

/-!
# How talks go

A talk is gone through an exchange at a time. `Leads t exchanges rest` says that the exchanges lead
from the talk `t` to the talk `rest`, and `Ends t exchanges a` that they lead to the result `a`.
Nothing is said about who replies, and a request may get any reply. Main statement: a talk that goes
on with the result of another one goes through the exchanges of both, one after the other.
-/

namespace FlagHost

/-- A request, and what came back for it. -/
structure Exchange where
  request : Request
  reply : Reply

/-- The status of a response. -/
def Reply.status? : Reply → Option Nat
  | .response r => some r.status
  | .broken => none

namespace Talk

variable {α β : Type}

/-- The exchanges lead from the first talk to the second. -/
inductive Leads : Talk α → List Exchange → Talk α → Prop where
  | here (t : Talk α) : Leads t [] t
  | ask {request : Request} {next : Reply → Talk α} {reply : Reply} {exchanges : List Exchange}
      {rest : Talk α} (more : Leads (next reply) exchanges rest) :
      Leads (.ask request next) (⟨request, reply⟩ :: exchanges) rest

/-- The exchanges lead from the talk to the result. -/
def Ends (t : Talk α) (exchanges : List Exchange) (a : α) : Prop := Leads t exchanges (.done a)

/-- One more exchange. -/
theorem Leads.snoc {t : Talk α} {exchanges : List Exchange} {request : Request}
    {next : Reply → Talk α} (h : Leads t exchanges (.ask request next)) (reply : Reply) :
    Leads t (exchanges ++ [⟨request, reply⟩]) (next reply) := by
  generalize last : Talk.ask request next = rest at h
  induction h with
  | here =>
    subst last
    exact .ask (.here _)
  | ask _ ih => exact .ask (ih last)

theorem leads_done_iff (a : α) (exchanges : List Exchange) (rest : Talk α) :
    Leads (.done a) exchanges rest ↔ exchanges = [] ∧ rest = .done a := by
  constructor
  · intro h
    cases h with
    | here => exact ⟨rfl, rfl⟩
  · rintro ⟨rfl, rfl⟩
    exact .here _

theorem ends_pure_iff (a b : α) (exchanges : List Exchange) :
    (pure a : Talk α).Ends exchanges b ↔ exchanges = [] ∧ b = a := by
  refine (leads_done_iff a exchanges _).trans (and_congr_right fun _ => ?_)
  exact ⟨Talk.done.inj, congrArg Talk.done⟩

theorem eq_of_ends_pure {a a' : α} {b b' : β} {exchanges : List Exchange}
    (h : (pure (a, b) : Talk (α × β)).Ends exchanges (a', b')) :
    exchanges = [] ∧ a = a' ∧ b = b' := by
  obtain ⟨rfl, same⟩ := (ends_pure_iff (a, b) (a', b') exchanges).1 h
  exact ⟨rfl, Prod.mk.inj same.symm⟩

theorem ends_ask_iff (request : Request) (next : Reply → Talk α) (exchanges : List Exchange)
    (a : α) :
    (Talk.ask request next).Ends exchanges a ↔
      ∃ reply more, exchanges = ⟨request, reply⟩ :: more ∧ (next reply).Ends more a := by
  constructor
  · intro h
    cases h with
    | ask more => exact ⟨_, _, rfl, more⟩
  · rintro ⟨reply, more, rfl, h⟩
    exact .ask h

theorem ends_send_bind_iff (request : Request) (next : Reply → Talk α) (exchanges : List Exchange)
    (a : α) :
    (send request >>= next).Ends exchanges a ↔
      ∃ reply more, exchanges = ⟨request, reply⟩ :: more ∧ (next reply).Ends more a :=
  ends_ask_iff request next exchanges a

/-- A talk that goes on goes through the exchanges of both parts. -/
theorem ends_bind_iff (t : Talk α) (f : α → Talk β) (exchanges : List Exchange) (b : β) :
    (t >>= f).Ends exchanges b ↔
      ∃ first second a, exchanges = first ++ second ∧ t.Ends first a ∧ (f a).Ends second b := by
  change (t.bind f).Ends exchanges b ↔ _
  induction t generalizing exchanges with
  | done a =>
    constructor
    · intro h
      exact ⟨[], exchanges, a, rfl, .here _, h⟩
    · rintro ⟨first, second, a', rfl, h, h'⟩
      obtain ⟨rfl, rfl⟩ := (ends_pure_iff a a' first).1 h
      exact h'
  | ask request next ih =>
    rw [Talk.bind, ends_ask_iff]
    constructor
    · rintro ⟨reply, more, rfl, h⟩
      obtain ⟨first, second, a, rfl, h, h'⟩ := (ih reply more).1 h
      exact ⟨⟨request, reply⟩ :: first, second, a, rfl, .ask h, h'⟩
    · rintro ⟨first, second, a, rfl, h, h'⟩
      obtain ⟨reply, more, rfl, ended⟩ := (ends_ask_iff request next first a).1 h
      exact ⟨reply, more ++ second, rfl, (ih reply _).2 ⟨more, second, a, rfl, ended, h'⟩⟩

/-- The exchanges with one who answers each request on its own. -/
def exchanges (server : Request → Reply) (t : Talk α) : List Exchange :=
  (t.requests server).map fun request => ⟨request, server request⟩

/-- Whoever answers, a talk comes to its end. -/
theorem ends_against (server : Request → Reply) (t : Talk α) :
    t.Ends (t.exchanges server) (t.against server) := by
  induction t with
  | done a => exact .here _
  | ask request next ih => exact .ask (ih (server request))

end Talk

/-! ## Splits of lists -/

section Split

variable {α : Type} {a b x y : α} {before after : List α}

theorem nil_ne_split (before : List α) (b : α) (after : List α) : [] ≠ before ++ b :: after := by
  intro h
  exact List.append_ne_nil_of_right_ne_nil before (List.cons_ne_nil b after) h.symm

/-- An entry of a list with one more at its end is that one or an earlier one. -/
theorem snoc_eq_split_iff (l : List α) (a : α) (before : List α) (b : α) (after : List α) :
    l ++ [a] = before ++ b :: after ↔
      l = before ∧ a = b ∧ after = [] ∨ ∃ rest, after = rest ++ [a] ∧ l = before ++ b :: rest := by
  constructor
  · intro split
    rcases List.eq_nil_or_concat after with rfl | ⟨rest, z, rfl⟩
    · obtain ⟨rfl, same⟩ := List.append_inj' split rfl
      cases same
      exact .inl ⟨rfl, rfl, rfl⟩
    · rw [List.concat_eq_append, ← List.cons_append, ← List.append_assoc] at split
      obtain ⟨rfl, same⟩ := List.append_inj' split rfl
      cases same
      exact .inr ⟨rest, List.concat_eq_append, rfl⟩
  · rintro (⟨rfl, rfl, rfl⟩ | ⟨rest, rfl, rfl⟩)
    · rfl
    · rw [List.append_assoc, List.cons_append]

theorem singleton_eq_split (h : [a] = before ++ x :: after) : before = [] ∧ a = x := by
  rcases (snoc_eq_split_iff [] a before x after).1 h with ⟨rfl, rfl, -⟩ | ⟨rest, -, split⟩
  · exact ⟨rfl, rfl⟩
  · exact absurd split (nil_ne_split before x rest)

theorem pair_eq_split (h : [a, b] = before ++ x :: after) :
    before = [] ∧ a = x ∨ before = [a] ∧ b = x := by
  rcases (snoc_eq_split_iff [a] b before x after).1 h with ⟨rfl, rfl, -⟩ | ⟨rest, -, split⟩
  · exact .inr ⟨rfl, rfl⟩
  · exact .inl (singleton_eq_split split)

theorem pair_suffix_eq {earlier : List α} (h : before ++ [a, b] = earlier ++ [x, y]) :
    before = earlier ∧ a = x ∧ b = y := by
  obtain ⟨same, pair⟩ := List.append_inj' h rfl
  cases pair
  exact ⟨same, rfl, rfl⟩

end Split

end FlagHost

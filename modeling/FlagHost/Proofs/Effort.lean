import FlagHost.Client.Basic
import FlagHost.Proofs.Prerequisites
import FlagHost.Server.Router
import Mathlib.Algebra.Ring.Nat

/-!
# The effort of an answer

Nobody keeps in mind which flags have been looked at while prerequisites are followed, so a flag is
looked at on every way that leads to it. The effort of an evaluation is how often this happens. Main
statement: where each flag of a ladder requires the next one several times, there are as many ways
down as a power says whose exponent is the number of rungs, and none of them is spared.

The counts are those of a twin of the evaluator, which stops where the evaluator stops.
-/

namespace FlagHost

namespace Evaluator

section Counted

variable {α : Type} {test : α → Bool × Nat}

/-- Tests items until one fails: whether none has failed, and all counts together. -/
def allCounted (test : α → Bool × Nat) : List α → Bool × Nat
  | [] => (true, 0)
  | a :: as =>
    if (test a).1 then ((allCounted test as).1, (test a).2 + (allCounted test as).2) else test a

theorem allCounted_cons_of_true {a : α} (passed : (test a).1 = true) (as : List α) :
    allCounted test (a :: as) =
      ((allCounted test as).1, (test a).2 + (allCounted test as).2) := if_pos passed

theorem allCounted_fst (test : α → Bool × Nat) (as : List α) :
    (allCounted test as).1 = as.all fun a => (test a).1 := by
  induction as with
  | nil => rfl
  | cons a as ih =>
    rw [List.all_cons, ← ih]
    cases passed : (test a).1 with
    | true => rw [allCounted_cons_of_true passed, Bool.true_and]
    | false => rw [allCounted, passed, Bool.false_and, if_neg Bool.false_ne_true, passed]

theorem allCounted_replicate {a : α} (passed : (test a).1 = true) (times : Nat) :
    allCounted test (List.replicate times a) = (true, times * (test a).2) := by
  induction times with
  | zero => simp [allCounted]
  | succ times ih =>
    rw [List.replicate_succ, allCounted_cons_of_true passed, ih, Nat.succ_mul, Nat.add_comm]

end Counted

/-- Whether the prerequisites of a flag are met, and how many flags are looked at to tell. -/
def prerequisitesCounted (e : Evaluator) (target : Target) : Nat → Flag → Bool × Nat
  | 0, _ => (false, 0)
  | levels + 1, flag =>
    allCounted (fun required =>
      match e.configuration.flags.find? required.flag with
      | none => (true, 0)
      | some parent =>
        match e.targeted? target parent with
        | none => (true, 1)
        | some variation =>
          if required.values.contains variation.value then
            let behind := e.prerequisitesCounted target levels parent
            (behind.1, behind.2 + 1)
          else (false, 1)) flag.prerequisites

/-- How many flags are looked at to evaluate one. -/
def effort (e : Evaluator) (key : String) (target : Target) (kind : Flag.Kind) : Nat :=
  match e.configuration.flags.find? key with
  | none => 0
  | some flag =>
    if flag.kind ≠ kind then 0
    else (e.prerequisitesCounted target prerequisiteLevels flag).2 + 1

variable {e : Evaluator} {target : Target}

/-- The flags are counted where it is told whether prerequisites are met. -/
theorem prerequisitesCounted_fst (levels : Nat) (flag : Flag) :
    (e.prerequisitesCounted target levels flag).1 = e.prerequisitesMet target levels flag := by
  induction levels generalizing flag with
  | zero => rfl
  | succ levels ih =>
    rw [prerequisitesCounted, allCounted_fst, prerequisitesMet]
    congr 1
    funext required
    cases e.configuration.flags.find? required.flag with
    | none => rfl
    | some parent =>
      dsimp only
      cases e.targeted? target parent with
      | none => rfl
      | some variation =>
        dsimp only
        rw [← ih]
        cases required.values.contains variation.value <;> rfl

/-! ## Ladders -/

/-- So many rungs lead down from the flag. Each flag above the last one requires the next one so
many times, and gets what it asks for. -/
inductive Ladder (e : Evaluator) (target : Target) (times : Nat) : Nat → Flag → Prop where
  | last {flag : Flag} (free : flag.prerequisites = []) : Ladder e target times 0 flag
  | rung {n : Nat} {flag next : Flag} {required : Prerequisite}
      (requires : flag.prerequisites = List.replicate times required)
      (satisfied : e.configuration.SatisfiedBy (e.Yields target) required next)
      (below : Ladder e target times n next) : Ladder e target times (n + 1) flag

/-- No way down a ladder is spared. -/
theorem Ladder.exists_counted {times n levels : Nat} {flag : Flag}
    (h : Ladder e target times n flag) (deep : n < levels) :
    ∃ count, e.prerequisitesCounted target levels flag = (true, count) ∧ times ^ n ≤ count + 1 := by
  induction h generalizing levels with
  | last free =>
    obtain ⟨levels, rfl⟩ : ∃ l, levels = l + 1 := Nat.exists_eq_succ_of_ne_zero (by omega)
    refine ⟨0, ?_, Nat.le_refl 1⟩
    rw [prerequisitesCounted, free]
    rfl
  | rung requires satisfied below ih =>
    obtain ⟨levels, rfl⟩ : ∃ l, levels = l + 1 := Nat.exists_eq_succ_of_ne_zero (by omega)
    obtain ⟨found, variation, served, wanted⟩ := satisfied
    have served : e.targeted? target _ = some variation := served
    obtain ⟨count, counted, ways⟩ := ih (Nat.lt_of_succ_lt_succ deep)
    refine ⟨times * (count + 1), ?_, ?_⟩
    · rw [prerequisitesCounted, requires, allCounted_replicate]
      all_goals simp [found, served, wanted, counted]
    · calc
        times ^ (_ + 1) = times * times ^ _ := pow_succ' times _
        _ ≤ times * (count + 1) := Nat.mul_le_mul_left times ways
        _ ≤ times * (count + 1) + 1 := Nat.le_succ _

/-- A flag that serves `true`, and requires this of another flag so many times. -/
def requiring (times : Nat) (key : String) (next : Option String) : Flag where
  key := key
  kind := .boolean
  state := .on
  variations := [{ identifier := "on", value := "true" }]
  offVariation := "on"
  defaultServe := { variation := some "on" }
  prerequisites :=
    next.elim [] fun next => List.replicate times { flag := next, values := ["true"] }

/-- Flags of which each requires the next one so many times. -/
def rungs (times : Nat) : List String → List Flag
  | [] => []
  | key :: keys => requiring times key keys.head? :: rungs times keys

/-- The configuration that has these flags. -/
def laddered (times : Nat) (keys : List String) : Configuration where
  flags := Table.ofList ((rungs times keys).map fun flag => (flag.key, flag))

theorem targeted?_requiring (e : Evaluator) (target : Target) (times : Nat) (key : String)
    (next : Option String) :
    e.targeted? target (requiring times key next) =
      some { identifier := "on", value := "true" } := rfl

theorem key_rungs (times : Nat) (keys : List String) : (rungs times keys).map Flag.key = keys := by
  induction keys with
  | nil => rfl
  | cons key keys ih => exact congrArg (key :: ·) ih

theorem find?_laddered (times : Nat) {keys : List String} (distinct : keys.Nodup) :
    ∀ flag ∈ rungs times keys, (laddered times keys).flags.find? flag.key = some flag := by
  intro flag mem
  have listed : Table.keys ((rungs times keys).map fun flag => (flag.key, flag)) = keys := by
    rw [Table.keys, List.map_map]
    exact key_rungs times keys
  exact Table.find?_ofList_of_nodup (listed.symm ▸ distinct) (List.mem_map_of_mem mem)

/-- Flags of which each requires the next one are a ladder wherever they are found. -/
theorem ladder_requiring {times : Nat} {key : String} {keys : List String}
    (all : ∀ flag ∈ rungs times keys, e.configuration.flags.find? flag.key = some flag) :
    Ladder e target times keys.length (requiring times key keys.head?) := by
  induction keys generalizing key with
  | nil => exact .last rfl
  | cons next keys ih =>
    obtain ⟨found, behind⟩ := List.forall_mem_cons.1 all
    refine .rung rfl ⟨found, _, targeted?_requiring .., ?_⟩ (ih behind)
    exact List.mem_singleton.2 rfl

/-- The effort is beyond any bound, though there are few flags and none requires itself. -/
theorem pow_le_effort {key : String} {keys : List String} (distinct : (key :: keys).Nodup)
    (short : keys.length < prerequisiteLevels) (times : Nat) (bucket : String → Nat)
    (target : Target) :
    times ^ keys.length ≤ effort ⟨laddered times (key :: keys), bucket⟩ key target .boolean := by
  obtain ⟨found, behind⟩ := List.forall_mem_cons.1 (find?_laddered times distinct)
  have found : (laddered times (key :: keys)).flags.find? key =
      some (requiring times key keys.head?) := found
  have ladder : Ladder ⟨laddered times (key :: keys), bucket⟩ target times keys.length
      (requiring times key keys.head?) := ladder_requiring behind
  obtain ⟨count, counted, ways⟩ := ladder.exists_counted short
  rw [effort, found]
  dsimp only
  rw [counted]
  exact ways

end Evaluator

/-! ## Requests -/

/-- How many flags a client looks at to answer a question. -/
def Client.effort (c : Client) (question : Question) : Nat :=
  match c.store.snapshot with
  | none => 0
  | some configuration =>
    Evaluator.effort ⟨configuration, percentBucket⟩ question.key question.target question.kind

/-- How many flags a server with the client looks at to answer a request. -/
def Request.effort (client : Option Client) (request : Request) : Nat :=
  let inquiry := handle client.isSome request.method request.url.target request.body
  ((inquiry.questions (Question.answer client)).map fun question =>
    client.elim 0 (·.effort question)).sum

end FlagHost

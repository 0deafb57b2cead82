import FlagHost.Clause.Operator
import FlagHost.Proofs.Boundaries
import Mathlib.Data.List.Infix

/-!
# How operators agree with each other

All operators but the one for patterns compare texts, and each comparison is about where the
characters of the value stand among those of the attribute. Main statement: what follows from one
comparison for another, that only `in` looks at more than one value, and that it does not matter
whether characters or bytes are compared.
-/

namespace FlagHost

theorem occursIn_iff (part cs : List Char) : occursIn part cs = true ↔ part <:+: cs := by
  induction cs with
  | nil => rw [occursIn, List.isEmpty_iff, List.infix_nil]
  | cons c cs ih =>
    rw [occursIn, Bool.or_eq_true, List.isPrefixOf_iff_prefix, ih, List.infix_cons_iff]

namespace Operator

/-- The text as it is compared: without regard to case for `equal`. -/
def seen (op : Operator) (text : String) : String :=
  if op = .equal then Unicode.lowerCase text else text

/-- The parts of a value, characters or bytes, stand where the operator looks for them among those
of an attribute. A pattern is not looked for part by part. -/
def Compares {α : Type} (op : Operator) (found value : List α) : Prop :=
  match op with
  | .startsWith => value <+: found
  | .endsWith => value <:+ found
  | .contains => value <:+: found
  | .equal => found = value
  | .equalSensitive => found = value
  | .isAmong => found = value
  | .matchesPattern => False

/-- Bytes are compared as their characters are. -/
theorem compares_encode_iff (op : Operator) (cs ds : List Char) :
    op.Compares (Utf8.encode cs) (Utf8.encode ds) ↔ op.Compares cs ds := by
  cases op with
  | startsWith => exact Utf8.encode_isPrefix_iff ds cs
  | endsWith => exact Utf8.encode_isSuffix_iff ds cs
  | contains => exact Utf8.encode_isInfix_iff ds cs
  | equal => exact Utf8.encode_inj
  | equalSensitive => exact Utf8.encode_inj
  | isAmong => exact Utf8.encode_inj
  | matchesPattern => exact Iff.rfl

theorem compare_iff {op : Operator} (other : op ≠ .matchesPattern) (found value : String) :
    op.compare found value = true ↔ op.Compares (op.seen found).toList (op.seen value).toList := by
  cases op with
  | startsWith => exact List.isPrefixOf_iff_prefix
  | endsWith => exact List.isSuffixOf_iff_suffix
  | contains => exact occursIn_iff value.toList found.toList
  | equal => exact beq_iff_eq.trans String.toList_inj.symm
  | equalSensitive => exact beq_iff_eq.trans String.toList_inj.symm
  | isAmong => exact beq_iff_eq.trans String.toList_inj.symm
  | matchesPattern => exact absurd rfl other

theorem holds_nil (op : Operator) (found : String) : op.holds found [] = false := by
  cases op <;> rfl

theorem holds_cons {op : Operator} (single : op ≠ .isAmong) (found first : String)
    (more : List String) : op.holds found (first :: more) = op.compare found first := by
  cases op with
  | isAmong => exact absurd rfl single
  | _ => rfl

theorem holds_singleton (op : Operator) (found value : String) :
    op.holds found [value] = op.compare found value := by
  cases op with
  | isAmong => exact Bool.or_false _
  | _ => rfl

theorem isAmong_holds_iff (found : String) (values : List String) :
    isAmong.holds found values = true ↔
      ∃ value ∈ values, equalSensitive.holds found [value] = true :=
  List.any_eq_true

theorem equalSensitive_holds_iff (found first : String) (more : List String) :
    equalSensitive.holds found (first :: more) = true ↔ found = first :=
  beq_iff_eq

/-- A text stands in itself in every way. -/
theorem holds_self {op : Operator} (other : op ≠ .matchesPattern) (found : String)
    (more : List String) : op.holds found (found :: more) = true := by
  have compares : op.compare found found = true := by
    rw [compare_iff other]
    cases op with
    | startsWith => exact List.prefix_rfl
    | endsWith => exact List.suffix_rfl
    | contains => exact List.infix_rfl
    | matchesPattern => exact absurd rfl other
    | _ => rfl
  by_cases among : op = .isAmong
  · subst among
    exact List.any_eq_true.2 ⟨found, List.mem_cons_self, compares⟩
  · rw [holds_cons among, compares]

/-- What is known of the operators for an attribute and values. -/
structure Agree (found first : String) (more : List String) : Prop where
  /-- Equal texts stand in each other in every way. -/
  of_equalSensitive : equalSensitive.holds found (first :: more) = true →
    ∀ op ≠ matchesPattern, op.holds found (first :: more) = true
  of_startsWith : startsWith.holds found (first :: more) = true →
    contains.holds found (first :: more) = true
  of_endsWith : endsWith.holds found (first :: more) = true →
    contains.holds found (first :: more) = true
  /-- What is contained begins somewhere. -/
  contains_iff : contains.holds found (first :: more) = true ↔
    ∃ behind : String, behind.toList <:+ found.toList ∧
      startsWith.holds behind (first :: more) = true
  isAmong_iff : isAmong.holds found (first :: more) = true ↔
    ∃ value ∈ first :: more, equalSensitive.holds found [value] = true
  /-- Only `in` looks behind the first value. -/
  first_alone : ∀ op ≠ isAmong, op.holds found (first :: more) = op.holds found [first]
  without_values : ∀ op : Operator, op.holds found [] = false
  /-- Characters are compared. -/
  characters : ∀ op ≠ matchesPattern, op.holds found [first] = true ↔
    op.Compares (op.seen found).toList (op.seen first).toList
  /-- It would be the same if bytes were compared. -/
  bytes : ∀ op ≠ matchesPattern, op.holds found [first] = true ↔
    op.Compares (Utf8.ofText (op.seen found)) (Utf8.ofText (op.seen first))

theorem holds_agree (found first : String) (more : List String) : Agree found first more := by
  have characters (op : Operator) (other : op ≠ matchesPattern) :
      op.holds found [first] = true ↔
        op.Compares (op.seen found).toList (op.seen first).toList := by
    rw [holds_singleton, compare_iff other]
  have starts (behind : String) : startsWith.holds behind (first :: more) = true ↔
      first.toList <+: behind.toList :=
    compare_iff (show startsWith ≠ matchesPattern by decide) behind first
  have ends : endsWith.holds found (first :: more) = true ↔ first.toList <:+ found.toList :=
    compare_iff (show endsWith ≠ matchesPattern by decide) found first
  have within : contains.holds found (first :: more) = true ↔ first.toList <:+: found.toList :=
    compare_iff (show contains ≠ matchesPattern by decide) found first
  refine
    { of_equalSensitive := fun equal op other => ?_
      of_startsWith := fun first_in => within.2 ((starts found).1 first_in).isInfix
      of_endsWith := fun last_in => within.2 (ends.1 last_in).isInfix
      contains_iff := ?_
      isAmong_iff := isAmong_holds_iff found (first :: more)
      first_alone := fun op single => ?_
      without_values := fun op => holds_nil op found
      characters := characters
      bytes := fun op other => ?_ }
  · rw [(equalSensitive_holds_iff found first more).1 equal]
    exact holds_self other first more
  · rw [within, List.infix_iff_prefix_suffix]
    constructor
    · rintro ⟨behind, front, suffix⟩
      exact ⟨String.ofList behind, by rwa [String.toList_ofList],
        (starts _).2 (by rwa [String.toList_ofList])⟩
    · rintro ⟨behind, suffix, front⟩
      exact ⟨behind.toList, (starts behind).1 front, suffix⟩
  · rw [holds_cons single, holds_singleton]
  · rw [characters op other]
    exact (compares_encode_iff op _ _).symm

end Operator

end FlagHost

import FlagHost.Evaluation
import Mathlib.Data.List.Sort

/-!
# The order of rules

Rules are sorted by priority, and rules of one priority stay in the order in which they are listed.
`FirstSuch p l a` says that `a` is the first element of `l` with a property, and
`LeastRule p rules rule` that `rule` has the least priority of the rules with a property, and the
least position among those of its priority. Main statement: the first rule with a property in the
sorted list is the least one in the list as it is given.

Sorting is stable. So two lists are sorted into the same one if they have the same rules of each
priority in the same order (`SameTies`), whatever the order of their priorities.
-/

namespace FlagHost

/-- The element has the property, and none before it in the list does. -/
def FirstSuch {α : Type} (p : α → Prop) (l : List α) (a : α) : Prop :=
  p a ∧ ∃ before after, l = before ++ a :: after ∧ ∀ b ∈ before, ¬ p b

theorem find?_eq_some_iff_firstSuch {α : Type} {p : α → Bool} {q : α → Prop}
    (h : ∀ a, p a = true ↔ q a) (l : List α) (a : α) :
    l.find? p = some a ↔ FirstSuch q l a := by
  simp [List.find?_eq_some_iff_append, FirstSuch, ← h]

theorem find?_eq_none_iff_forall {α : Type} {p : α → Bool} {q : α → Prop}
    (h : ∀ a, p a = true ↔ q a) (l : List α) : l.find? p = none ↔ ∀ a ∈ l, ¬ q a := by
  simp [List.find?_eq_none, ← h]

namespace Rule

/-- The rule has the property and comes before all other rules with it, by priority and among those
of one priority by position. -/
def LeastRule (p : Rule → Prop) (rules : List Rule) (rule : Rule) : Prop :=
  ∃ i : Nat, rules[i]? = some rule ∧ p rule ∧
    ∀ (j : Nat) other, rules[j]? = some other → p other →
      rule.priority < other.priority ∨ rule.priority = other.priority ∧ i ≤ j

/-- The lists have the same rules of each priority, in the same order: one is the other reordered,
and ties are left as they are. -/
def SameTies (rules rules' : List Rule) : Prop :=
  ∀ p : Int32, rules.filter (·.priority == p) = rules'.filter (·.priority == p)

theorem insert_eq_orderedInsert (rule : Rule) (rules : List Rule) :
    rule.insert rules = rules.orderedInsert (fun a b => a.priority ≤ b.priority) rule := by
  induction rules with
  | nil => rfl
  | cons r rs ih =>
    rw [insert, List.orderedInsert_cons, ih]
    by_cases h : r.priority < rule.priority
    · rw [if_pos h, if_neg (Int32.not_le.2 h)]
    · rw [if_neg h, if_pos (Int32.not_lt.1 h)]

theorem byPriority_cons (rule : Rule) (rules : List Rule) :
    byPriority (rule :: rules) = rule.insert (byPriority rules) := rfl

theorem byPriority_eq_insertionSort (rules : List Rule) :
    byPriority rules = rules.insertionSort fun a b => a.priority ≤ b.priority := by
  induction rules with
  | nil => exact List.foldr_nil
  | cons rule rules ih => rw [byPriority_cons, List.insertionSort_cons, ih, insert_eq_orderedInsert]

theorem byPriority_sorted (rules : List Rule) :
    (byPriority rules).Pairwise fun a b => a.priority ≤ b.priority := by
  have total : Std.Total fun a b : Rule => a.priority ≤ b.priority :=
    ⟨fun a b => Int32.le_total a.priority b.priority⟩
  have transitive : IsTrans Rule fun a b => a.priority ≤ b.priority :=
    ⟨fun _ _ _ => Int32.le_trans⟩
  rw [byPriority_eq_insertionSort]
  exact List.pairwise_insertionSort _ rules

theorem mem_byPriority (rule : Rule) (rules : List Rule) :
    rule ∈ byPriority rules ↔ rule ∈ rules := by
  rw [byPriority_eq_insertionSort, List.mem_insertionSort]

/-! ## Ties -/

theorem SameTies.perm {rules rules' : List Rule} (h : SameTies rules rules') :
    rules.Perm rules' := by
  apply List.perm_iff_count.2
  intro rule
  have own (l : List Rule) : (l.filter (·.priority == rule.priority)).count rule = l.count rule :=
    List.count_filter (beq_self_eq_true rule.priority)
  rw [← own rules, h, own]

theorem filter_insert (rule : Rule) (rules : List Rule) (p : Int32) :
    (rule.insert rules).filter (·.priority == p) = (rule :: rules).filter (·.priority == p) := by
  induction rules with
  | nil => simp [insert]
  | cons r rs ih =>
    by_cases lt : r.priority < rule.priority
    · rw [insert, if_pos lt, List.filter_cons, ih]
      by_cases own : rule.priority = p
      · -- What the rule passes by has another priority.
        have other : r.priority ≠ p := fun same => Int32.lt_irrefl (same ▸ own ▸ lt)
        simp [own, other]
      · simp [own, List.filter_cons]
    · rw [insert, if_neg lt]

/-- Sorting is stable. -/
theorem filter_byPriority (rules : List Rule) (p : Int32) :
    (byPriority rules).filter (·.priority == p) = rules.filter (·.priority == p) := by
  induction rules with
  | nil => simp [byPriority]
  | cons rule rules ih =>
    rw [byPriority_cons, filter_insert, List.filter_cons, ih, List.filter_cons]

theorem head_le_of_sameTies {a b : Rule} {rules rules' : List Rule}
    (sorted : (a :: rules).Pairwise fun a b => a.priority ≤ b.priority)
    (h : SameTies (a :: rules) (b :: rules')) : a.priority ≤ b.priority := by
  rcases List.mem_cons.1 (h.perm.mem_iff.2 List.mem_cons_self) with same | mem
  · rw [same]
    exact Int32.le_refl _
  · exact List.rel_of_pairwise_cons sorted mem

/-- A sorted list is known from the order of its rules of each priority. -/
theorem eq_of_sameTies {rules rules' : List Rule}
    (sorted : rules.Pairwise fun a b => a.priority ≤ b.priority)
    (sorted' : rules'.Pairwise fun a b => a.priority ≤ b.priority)
    (h : SameTies rules rules') : rules = rules' := by
  induction rules generalizing rules' with
  | nil =>
    rw [h.perm.nil_eq]
  | cons a rs ih =>
    cases rules' with
    | nil => exact absurd h.perm.eq_nil (List.cons_ne_nil a rs)
    | cons b rs' =>
      have back : SameTies (b :: rs') (a :: rs) := fun p => (h p).symm
      have level : a.priority = b.priority :=
        Int32.le_antisymm (head_le_of_sameTies sorted h) (head_le_of_sameTies sorted' back)
      have first := h b.priority
      simp only [List.filter_cons, level, beq_self_eq_true, if_true, List.cons.injEq] at first
      obtain ⟨rfl, -⟩ := first
      have rest : SameTies rs rs' := by
        intro p
        by_cases here : a.priority = p <;> simpa [here] using h p
      rw [ih sorted.of_cons sorted'.of_cons rest]

/-- Rules are tried in the same order after any reordering that leaves ties as they are. -/
theorem byPriority_eq_of_sameTies {rules rules' : List Rule} (h : SameTies rules rules') :
    byPriority rules = byPriority rules' := by
  apply eq_of_sameTies (byPriority_sorted rules) (byPriority_sorted rules')
  intro p
  rw [filter_byPriority, filter_byPriority, h p]

section Pointwise

variable {r : Rule → Rule → Prop} (level : ∀ a b, r a b → a.priority = b.priority)
include level

theorem forall₂_insert {a b : Rule} {rules rules' : List Rule} (first : r a b)
    (h : List.Forall₂ r rules rules') : List.Forall₂ r (a.insert rules) (b.insert rules') := by
  induction h with
  | nil => exact .cons first .nil
  | @cons c d rs rs' related more ih =>
    rw [insert, insert, level a b first, level c d related]
    by_cases lt : d.priority < b.priority
    · rw [if_pos lt, if_pos lt]
      exact .cons related ih
    · rw [if_neg lt, if_neg lt]
      exact .cons first (.cons related more)

/-- Rules that go together, and have the same priorities, do so when they are sorted. -/
theorem forall₂_byPriority {rules rules' : List Rule} (h : List.Forall₂ r rules rules') :
    List.Forall₂ r (byPriority rules) (byPriority rules') := by
  induction h with
  | nil => exact .nil
  | cons related _ ih => exact forall₂_insert level related ih

end Pointwise

/-! ## The first rule with a property -/

/-- A rule that is inserted comes first among those with a property, unless one of lesser priority
was there. -/
theorem find?_insert {p : Rule → Bool} {rule : Rule} {rules : List Rule}
    (sorted : rules.Pairwise fun a b => a.priority ≤ b.priority) :
    (rule.insert rules).find? p =
      if p rule then
        ((rules.find? p).filter fun first => first.priority < rule.priority).or (some rule)
      else rules.find? p := by
  induction rules with
  | nil => by_cases h : p rule <;> simp [insert, h]
  | cons r rs ih =>
    obtain ⟨least, sorted⟩ := List.pairwise_cons.1 sorted
    by_cases lt : r.priority < rule.priority
    · rw [insert, if_pos lt, List.find?_cons, List.find?_cons, ih sorted]
      cases h : p r with
      | true => simp [Option.filter, lt]
      | false => rfl
    · rw [insert, if_neg lt, List.find?_cons]
      cases h : p rule with
      | false => rfl
      | true =>
        -- All rules behind `rule` have its priority or a greater one.
        have none_before : ((r :: rs).find? p).filter
            (fun first => first.priority < rule.priority) = none := by
          rw [Option.filter_eq_none_iff]
          intro first found
          have le : r.priority ≤ first.priority := by
            rcases List.mem_cons.1 (List.mem_of_find?_eq_some found) with rfl | mem
            · exact Int32.le_refl _
            · exact least first mem
          simpa using Int32.le_trans (Int32.not_lt.1 lt) le
        rw [none_before]
        rfl

variable {p : Rule → Prop} {rule other : Rule} {rules : List Rule}

theorem LeastRule.unique (h : LeastRule p rules rule) (h' : LeastRule p rules other) :
    rule = other := by
  obtain ⟨i, at_i, p_rule, least⟩ := h
  obtain ⟨j, at_j, p_other, least'⟩ := h'
  have same : i = j := by
    rcases least j other at_j p_other with lt | ⟨eq, le⟩
    · rcases least' i rule at_i p_rule with lt' | ⟨eq', _⟩
      · exact absurd lt' (Int32.lt_asymm lt)
      · exact (Int32.lt_irrefl (eq' ▸ lt)).elim
    · rcases least' i rule at_i p_rule with lt' | ⟨_, le'⟩
      · exact (Int32.lt_irrefl (eq ▸ lt')).elim
      · exact Nat.le_antisymm le le'
  subst same
  exact Option.some.inj (at_i.symm.trans at_j)

/-- The least of some rules stays the least if the one in front lacks the property or has a greater
priority. -/
theorem LeastRule.cons (h : LeastRule p rules rule)
    (first : p other → rule.priority < other.priority) : LeastRule p (other :: rules) rule := by
  obtain ⟨i, at_i, p_rule, least⟩ := h
  refine ⟨i + 1, by simpa using at_i, p_rule, fun j r at_j p_r => ?_⟩
  cases j with
  | zero =>
    obtain rfl : other = r := by simpa using at_j
    exact .inl (first p_r)
  | succ j =>
    exact (least j r (by simpa using at_j) p_r).imp_right fun le => ⟨le.1, Nat.succ_le_succ le.2⟩

/-- A rule with the property is the least if none behind it has a lesser priority. -/
theorem LeastRule.head (h : p rule)
    (least : ∀ r ∈ rules, p r → rule.priority ≤ r.priority) : LeastRule p (rule :: rules) rule := by
  refine ⟨0, rfl, h, fun j r at_j p_r => ?_⟩
  have le : rule.priority ≤ r.priority := by
    rcases List.mem_cons.1 (List.mem_of_getElem? at_j) with rfl | mem
    · exact Int32.le_refl _
    · exact least r mem p_r
  exact (Int32.lt_or_eq_of_le le).imp_right fun eq => ⟨eq, Nat.zero_le j⟩

theorem LeastRule.le (h : LeastRule p rules rule) {r : Rule} (mem : r ∈ rules) (p_r : p r) :
    rule.priority ≤ r.priority := by
  obtain ⟨i, _, _, least⟩ := h
  obtain ⟨j, at_j⟩ := List.mem_iff_getElem?.1 mem
  rcases least j r at_j p_r with lt | ⟨eq, _⟩
  · exact Int32.le_of_lt lt
  · exact eq ▸ Int32.le_refl _

theorem leastRule_of_find?_byPriority {f : Rule → Bool}
    (h : (byPriority rules).find? f = some rule) :
    LeastRule (f · = true) rules rule := by
  induction rules generalizing rule with
  | nil => simp [byPriority] at h
  | cons r rs ih =>
    rw [byPriority_cons, find?_insert (byPriority_sorted rs)] at h
    cases f_r : f r with
    | false =>
      rw [f_r, if_neg Bool.false_ne_true] at h
      exact (ih h).cons fun f_r' => absurd (f_r.symm.trans f_r') Bool.false_ne_true
    | true =>
      rw [f_r, if_pos rfl, Option.or_eq_some_iff] at h
      rcases h with found | ⟨none_before, same⟩
      · obtain ⟨found, lt⟩ := Option.filter_eq_some_iff.1 found
        exact (ih found).cons fun _ => of_decide_eq_true lt
      · obtain rfl := Option.some.inj same
        refine LeastRule.head f_r fun other mem f_other => ?_
        cases found : (byPriority rs).find? f with
        | none =>
          have fails := List.find?_eq_none.1 found other ((mem_byPriority other rs).2 mem)
          exact absurd f_other fails
        | some first =>
          rw [found] at none_before
          have le : r.priority ≤ first.priority := by simpa [Option.filter] using none_before
          exact Int32.le_trans le ((ih found).le mem f_other)

/-- The first rule with a property in the sorted list is the least one with it. -/
theorem find?_byPriority_eq_some_iff {f : Rule → Bool} (h : ∀ r, f r = true ↔ p r) :
    (byPriority rules).find? f = some rule ↔ LeastRule p rules rule := by
  obtain rfl : (f · = true) = p := funext fun r => propext (h r)
  constructor
  · exact leastRule_of_find?_byPriority
  · intro least
    obtain ⟨i, at_i, f_rule, _⟩ := id least
    cases found : (byPriority rules).find? f with
    | none =>
      have mem := (mem_byPriority rule rules).2 (List.mem_of_getElem? at_i)
      exact absurd f_rule (List.find?_eq_none.1 found rule mem)
    | some first => exact congrArg some ((leastRule_of_find?_byPriority found).unique least)

end Rule

end FlagHost

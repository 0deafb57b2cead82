import Mathlib.Data.List.Basic
import Mathlib.Data.List.DropRight

/-!
# Spans

The part of a list in front of a mark. A span is known by what it is made of, and by what stands
behind it: nothing, or an element that does not belong to it. What is put behind a list changes no
span in it that ends before.
-/

namespace FlagHost

variable {α : Type} {p : α → Bool} {span rest : List α}

theorem takeWhile_append_of_stop (inside : ∀ a ∈ span, p a) (stop : ∀ a ∈ rest.head?, p a = false) :
    (span ++ rest).takeWhile p = span := by
  have nothing : rest.takeWhile p = [] := by
    cases rest with
    | nil => rfl
    | cons a rest => simp [stop a rfl]
  rw [List.takeWhile_append_of_pos inside, nothing, List.append_nil]

theorem dropWhile_append_of_stop (inside : ∀ a ∈ span, p a) (stop : ∀ a ∈ rest.head?, p a = false) :
    (span ++ rest).dropWhile p = rest := by
  rw [List.dropWhile_append_of_pos inside]
  cases rest with
  | nil => rfl
  | cons a rest => simp [stop a rfl]

theorem drop_takeWhile (p : α → Bool) (l : List α) :
    l.drop (l.takeWhile p).length = l.dropWhile p := by
  induction l with
  | nil => rfl
  | cons a l ih => by_cases inside : p a <;> simp [inside, ih]

theorem dropWhile_append_of_exists {front : List α} (stop : ∃ a ∈ front, p a = false)
    (rest : List α) : (front ++ rest).dropWhile p = front.dropWhile p ++ rest := by
  have some_left : front.dropWhile p ≠ [] := by
    simpa [List.dropWhile_eq_nil_iff] using stop
  rw [List.dropWhile_append, if_neg (by simpa using some_left)]

theorem takeWhile_append_of_exists {front : List α} (stop : ∃ a ∈ front, p a = false)
    (rest : List α) : (front ++ rest).takeWhile p = front.takeWhile p := by
  obtain ⟨a, mem, out⟩ := stop
  rw [List.takeWhile_append, if_neg]
  intro whole
  have all := List.takeWhile_eq_self_iff.1 ((List.takeWhile_prefix p).eq_of_length whole)
  exact nomatch out.symm.trans (all a mem)

theorem rdropWhile_append_of_exists (front : List α) (stop : ∃ a ∈ rest, p a = false) :
    (front ++ rest).rdropWhile p = front ++ rest.rdropWhile p := by
  have stop : ∃ a ∈ rest.reverse, p a = false := by simpa using stop
  rw [List.rdropWhile, List.rdropWhile, List.reverse_append, dropWhile_append_of_exists stop,
    List.reverse_append, List.reverse_reverse]

theorem rdropWhile_append_of_stop (stop : ∀ a ∈ span.getLast?, p a = false) (rest : List α) :
    (span ++ rest).rdropWhile p = span ++ rest.rdropWhile p := by
  have kept : span.reverse.dropWhile p = span.reverse := by
    cases back : span.reverse with
    | nil => rfl
    | cons a back' =>
      have last : a ∈ span.getLast? := by simp [List.getLast?_eq_head?_reverse, back]
      exact List.dropWhile_cons_of_neg (by simp [stop a last])
  rw [List.rdropWhile, List.rdropWhile, List.reverse_append, List.dropWhile_append, kept]
  split
  · next gone =>
    rw [List.reverse_reverse, List.isEmpty_iff.1 gone, List.reverse_nil, List.append_nil]
  · rw [List.reverse_append, List.reverse_reverse]

end FlagHost

import FlagHost.Proofs.Tokens
import Mathlib.Algebra.Order.BigOperators.Group.List
import Mathlib.Algebra.GroupWithZero.Nat
import Mathlib.Algebra.Order.Group.Nat
import Mathlib.Data.List.Perm.Subperm

/-!
# Lengths of documents

There is no shorter way to write a text, or an object with certain members, than the one that is
printed. Main statement: bytes that write an object with members of these names are at least as long
as what is printed for them, if their values are at least as long.
-/

namespace FlagHost.Json

/-! ## Texts -/

theorem length_encodeChar_le (c : Char) : (Utf8.encodeChar c).length ≤ 4 := by
  unfold Utf8.encodeChar Utf8.encodePoint
  repeat' split
  all_goals simp

/-- What needs no escape is printed as it is. -/
theorem escapeChar_of_plain {c : Char} (visible : 32 ≤ c.toNat) (no_quote : c ≠ '"')
    (no_backslash : c ≠ '\\') : escapeChar c = [c] := by
  have other {d : Char} (control : d.toNat < 32) : c ≠ d := by
    rintro rfl
    exact Nat.not_le.2 control visible
  have no_short : c ≠ '\x08' ∧ c ≠ '\x0c' ∧ c ≠ '\n' ∧ c ≠ '\r' ∧ c ≠ '\t' :=
    ⟨other (by decide), other (by decide), other (by decide), other (by decide), other (by decide)⟩
  simp [escapeChar, no_quote, no_backslash, no_short, Nat.not_lt.2 visible]

theorem length_escapeChar_le_two {letter : UInt8} {c : Char} (known : (letter, c) ∈ shortEscapes) :
    (Utf8.encode (escapeChar c)).length ≤ 2 := by
  have all : ∀ entry ∈ shortEscapes, (Utf8.encode (escapeChar entry.2)).length ≤ 2 := by
    decide +kernel
  exact all _ known

theorem length_escapeChar_le_six (c : Char) : (Utf8.encode (escapeChar c)).length ≤ 6 := by
  by_cases control : c.toNat < 32
  · have all : ∀ n < 32, (Utf8.encode (escapeChar (Char.ofNat n))).length ≤ 6 := by
      decide +kernel
    have short := all _ control
    rwa [Char.ofNat_toNat] at short
  by_cases escaped : c = '"' ∨ c = '\\'
  · rcases escaped with rfl | rfl <;> decide +kernel
  obtain ⟨no_quote, no_backslash⟩ := not_or.1 escaped
  rw [escapeChar_of_plain (Nat.not_lt.1 control) no_quote no_backslash]
  rw [Utf8.encode_singleton]
  exact Nat.le_trans (length_encodeChar_le c) (by decide)

/-- No spelling of a text is shorter than the one that is printed. -/
theorem Spells.length_le {cs : List Char} {s : Bytes} (h : Spells cs s) :
    (Utf8.encode (cs.flatMap escapeChar)).length ≤ s.length := by
  induction h with
  | nil => exact Nat.le_refl 0
  | @plain c cs s visible no_quote no_backslash _ ih =>
    rw [List.flatMap_cons, Utf8.encode_append, escapeChar_of_plain visible no_quote no_backslash,
      Utf8.encode_singleton, List.length_append, List.length_append]
    omega
  | short known _ ih =>
    have := length_escapeChar_le_two known
    simp only [List.flatMap_cons, Utf8.encode_append, List.length_append, List.length_cons]
    omega
  | @point _ _ _ _ c _ _ _ _ ih =>
    have := length_escapeChar_le_six c
    simp only [List.flatMap_cons, Utf8.encode_append, List.length_append, List.length_cons]
    omega
  | @pair _ _ _ _ _ _ _ _ c _ _ _ _ _ _ _ _ _ _ ih =>
    have := length_escapeChar_le_six c
    simp only [List.flatMap_cons, Utf8.encode_append, List.length_append, List.length_cons]
    omega

theorem length_writeText_le {name : String} {text : Bytes} (spells : Spells name.toList text) :
    (Utf8.encode (writeText name)).length ≤ text.length + 2 := by
  have := spells.length_le
  have quote : Utf8.encode ['"'] = [34] := rfl
  rw [writeText, List.cons_append, Utf8.encode_cons, Utf8.encode_append, quote]
  simp only [List.length_append, List.length_singleton]
  have : (Utf8.encodeChar '"').length = 1 := rfl
  omega

theorem WritesText.length_le {t : String} {v : Bytes} (h : WritesText t v) :
    (Utf8.encode (write (.text t))).length ≤ v.length := by
  cases h with
  | quoted spells =>
    rw [write]
    simpa using length_writeText_le spells

/-! ## Objects -/

/-- The length of a member as it is printed, with its colon and the comma or the bracket behind. -/
def printedLength (member : String × Bytes) : Nat :=
  (Utf8.encode (writeText member.1)).length + member.2.length + 2

/-- The first member has no comma in front of it. -/
theorem Members.sum_le {first : Bool} {members : List (String × Bytes)} {s : Bytes}
    (h : Members first members s) :
    (members.map printedLength).sum + 1 ≤ s.length + first.toNat := by
  induction h with
  | closed => simp; omega
  | member separates _ spells _ _ _ ih =>
    have := length_writeText_le spells
    rw [Bool.toNat_false] at ih
    simp only [List.map_cons, List.sum_cons, printedLength, List.length_append, List.length_cons,
      List.length_nil]
    cases separates with
    | first =>
      rw [Bool.toNat_true]
      simp only [List.length_nil]
      omega
    | comma =>
      simp only [List.length_append, List.length_singleton, Bool.toNat_false]
      omega

theorem length_encode_writeMembers (members : List (String × Json)) :
    (Utf8.encode (writeMembers members)).length =
      ((printedMembers members).map printedLength).sum + 1 := by
  induction members with
  | nil => rfl
  | cons member members ih =>
    obtain ⟨k, v⟩ := member
    rw [encode_writeMembers_cons]
    simp only [printedMembers] at ih ⊢
    simp [ih, printedLength]
    omega

theorem length_encode_object {members : List (String × Json)} (some_member : members ≠ []) :
    (Utf8.encode (write (.object members))).length =
      ((printedMembers members).map printedLength).sum + 1 := by
  cases members with
  | nil => exact absurd rfl some_member
  | cons member members =>
    obtain ⟨k, v⟩ := member
    have behind := length_encode_writeMembers members
    rw [encode_write_object]
    simp only [printedMembers] at behind ⊢
    simp [behind, printedLength]
    omega

/-- Bytes that write an object are no shorter than what is printed of some of its members, if no
value is shorter than what is printed of it. -/
theorem Members.length_write_le {members : List (String × Bytes)} {s : Bytes}
    (written : Members true members s) {entries : List (String × Json)} (some_entry : entries ≠ [])
    (distinct : (entries.map (·.1)).Nodup)
    (values : ∀ entry ∈ entries, ∃ v, (entry.1, v) ∈ members ∧
      (Utf8.encode entry.2.write).length ≤ v.length) :
    (Utf8.encode (write (.object entries))).length ≤ s.length + 1 := by
  choose! value mem short using values
  let chosen := entries.map fun entry => (entry.1, value entry)
  have part : chosen.Subperm members := by
    refine List.Nodup.subperm (List.Nodup.of_map (·.1) ?_) ?_
    · simpa [chosen, Function.comp_def] using distinct
    · intro member chosen_member
      obtain ⟨entry, is_entry, rfl⟩ := List.mem_map.1 chosen_member
      exact mem entry is_entry
  have fewer : (chosen.map printedLength).sum ≤ (members.map printedLength).sum := by
    obtain ⟨same, permuted, sub⟩ := part
    rw [← (permuted.map printedLength).sum_eq]
    exact (sub.map printedLength).sum_le_sum fun _ _ => Nat.zero_le _
  have shorter :
      ((printedMembers entries).map printedLength).sum ≤ (chosen.map printedLength).sum := by
    rw [printedMembers, List.map_map, List.map_map]
    refine List.sum_le_sum fun entry is_entry => ?_
    have := short entry is_entry
    simp only [Function.comp_apply, printedLength]
    omega
  have all := written.sum_le
  rw [Bool.toNat_true] at all
  rw [length_encode_object some_entry]
  omega

end FlagHost.Json

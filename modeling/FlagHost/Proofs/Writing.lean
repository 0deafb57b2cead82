import FlagHost.Proofs.Decimals
import FlagHost.Proofs.Finite

/-!
# What is printed is written

Documents are printed by the grammar. Main statement: what is printed for a finite document writes a
value, and it writes an object if and only if the document is one.
-/

namespace FlagHost.Json

/-! ## Texts and numbers -/

theorem TextBody.append_plain {bytes s : Bytes} (plain : ∀ b ∈ bytes, IsPlain b)
    (rest : TextBody s) : TextBody (bytes ++ s) := by
  induction bytes with
  | nil => exact rest
  | cons b bytes ih =>
    obtain ⟨first, behind⟩ := List.forall_mem_cons.1 plain
    exact .plain first (ih behind)

theorem Spells.textBody {cs : List Char} {s : Bytes} (h : Spells cs s) : TextBody s := by
  induction h with
  | nil => exact .nil
  | plain visible no_quote no_backslash _ ih =>
    exact ih.append_plain fun b mem =>
      isPlain_of_mem_encodeChar visible no_quote no_backslash mem
  | short known _ ih => exact .short known ih
  | point number _ ih => exact .number number ih
  | pair first _ second _ _ _ ih => exact .number first (.number second ih)

theorem numeral_integer (n : Int) : Numeral (Utf8.encode (write (.integer n))) := by
  rw [encode_integer]
  split
  · exact .minus (whole_toDigits n.natAbs).unsigned
  · exact .plain (whole_toDigits n.natAbs).unsigned

/-! ## Lists and objects -/

theorem written_writeItems {vs : List Json}
    (written : ∀ v ∈ vs, Written .value (Utf8.encode v.write)) :
    Written (.rest .list false) (Utf8.encode (writeItems vs)) := by
  induction vs with
  | nil => exact .closed .list false Blank.nil
  | cons v vs ih =>
    obtain ⟨first, behind⟩ := List.forall_mem_cons.1 written
    have item := Written.item (.comma Blank.nil) .list Blank.nil first (ih behind)
    rw [encode_writeItems_cons]
    simpa using item

theorem named_writeText (k : String) :
    Frame.Named .object (Utf8.encode (writeText k) ++ [58]) := by
  obtain ⟨s, bytes, spells⟩ := exists_spells_writeText k
  have named := Frame.Named.object Blank.nil spells.textBody Blank.nil
  rw [bytes]
  simpa using named

theorem written_writeMembers {members : List (String × Json)}
    (written : ∀ member ∈ members, Written .value (Utf8.encode member.2.write)) :
    Written (.rest .object false) (Utf8.encode (writeMembers members)) := by
  induction members with
  | nil => exact .closed .object false Blank.nil
  | cons member members ih =>
    obtain ⟨first, behind⟩ := List.forall_mem_cons.1 written
    have item :=
      Written.item (.comma Blank.nil) (named_writeText member.1) Blank.nil first (ih behind)
    rw [encode_writeMembers_cons]
    simpa using item

/-! ## Documents -/

/-- The bytes of an object. -/
def WritesObject (s : Bytes) : Prop := ∃ rest, s = 123 :: rest ∧ Written (.rest .object true) rest

/-- The document is an object. -/
def IsObject (v : Json) : Prop := ∃ members, v = .object members

theorem writesObject_write {members : List (String × Json)}
    (written : ∀ member ∈ members, Written .value (Utf8.encode member.2.write)) :
    WritesObject (Utf8.encode (write (.object members))) := by
  cases members with
  | nil => exact ⟨_, rfl, .closed .object true Blank.nil⟩
  | cons member members =>
    obtain ⟨first, behind⟩ := List.forall_mem_cons.1 written
    have item := Written.item .first (named_writeText member.1) Blank.nil first
      (written_writeMembers behind)
    refine ⟨_, encode_write_object member.1 member.2 members, ?_⟩
    simpa using item

/-- What is printed for a document writes a value. -/
theorem Finite.written {v : Json} (h : Finite v) : Written .value (Utf8.encode v.write) := by
  induction h with
  | null => exact @Written.word "null" (by decide)
  | boolean b =>
    cases b
    · exact @Written.word "false" (by decide)
    · exact @Written.word "true" (by decide)
  | integer n => exact (numeral_integer n).written
  | float number bounded => exact (Decimal.numeral_floatText number bounded).written
  | text s =>
    obtain ⟨bytes, same, spells⟩ := exists_spells_writeText s
    rw [write, same]
    exact .text spells.textBody
  | @list items _ ih =>
    cases items with
    | nil => exact Written.opened (.closed .list true Blank.nil)
    | cons v vs =>
      obtain ⟨first, behind⟩ := List.forall_mem_cons.1 ih
      have item := Written.item .first .list Blank.nil first (written_writeItems behind)
      rw [encode_write_list]
      exact Written.opened item
  | object _ ih =>
    obtain ⟨rest, bytes, inside⟩ := writesObject_write ih
    rw [bytes]
    exact Written.opened inside

theorem Integral.written {v : Json} (h : Integral v) : Written .value (Utf8.encode v.write) :=
  h.finite.written

theorem Integral.written_of_mem {members : List (String × Json)} (h : Integral (.object members)) :
    ∀ member ∈ printedMembers members, Written .value member.2 := by
  cases h with
  | object all =>
    intro member mem
    obtain ⟨entry, is_entry, rfl⟩ := List.mem_map.1 mem
    exact (all entry is_entry).written

/-- An object is printed for objects only. -/
theorem Finite.writesObject_iff {v : Json} (h : Finite v) :
    WritesObject (Utf8.encode v.write) ↔ v.IsObject := by
  constructor
  · rintro ⟨rest, bytes, -⟩
    have first : (Utf8.encode v.write).head? = some 123 := by rw [bytes]; rfl
    cases h with
    | null => exact nomatch first
    | boolean b => cases b <;> exact nomatch first
    | integer n => exact absurd first (numeral_integer n).head?_ne
    | float number bounded => exact absurd first (Decimal.numeral_floatText number bounded).head?_ne
    | text s => exact nomatch first
    | @list items => cases items <;> exact nomatch first
    | @object members => exact ⟨members, rfl⟩
  · rintro ⟨members, rfl⟩
    cases h with
    | object all => exact writesObject_write fun member mem => (all member mem).written

theorem isObject_canonical_iff (v : Json) : v.canonical.IsObject ↔ v.IsObject := by
  cases v with
  | object members => exact iff_of_true ⟨_, canonical_object members⟩ ⟨members, rfl⟩
  | list items =>
    rw [canonical_list]
    exact iff_of_false nofun nofun
  | _ => exact Iff.rfl

theorem Finite.written_compact {v : Json} (h : Finite v) :
    Written .value (Utf8.ofText v.compact) := by
  rw [compact, toText, Utf8.ofText, String.toList_ofList]
  exact h.canonical.written

theorem Finite.writesObject_compact_iff {v : Json} (h : Finite v) :
    WritesObject (Utf8.ofText v.compact) ↔ v.IsObject := by
  rw [compact, toText, Utf8.ofText, String.toList_ofList, h.canonical.writesObject_iff]
  exact isObject_canonical_iff v

end FlagHost.Json

import FlagHost.Flag.Format
import FlagHost.Proofs.Canonical
import FlagHost.Proofs.Reading

/-!
# Formats give back what they write

A format is lawful if a value that is encoded is decoded again, from the document as it was encoded
and from its canonical form, and if both can be printed and read. Main statement: the formats of
flags and segments are lawful. This follows their structure: each way to put formats together makes
lawful ones of lawful ones, where a record must have different names for its fields.

`Lawful f levels` counts the lists and objects that documents of the format have in one another.
-/

namespace FlagHost

namespace Json

/-- Values are decoded as they were encoded, and printed documents are read as they are decoded. -/
structure Format.Lawful {α : Type} (f : Format α) (levels : Nat) : Prop where
  faithful : f.Faithful
  decode_encode : ∀ a, f.decode (f.encode a) = some a
  integral : ∀ a, Integral (f.encode a)
  within : ∀ a, Within levels (f.encode a)
  /-- The order of members does not matter. -/
  decode_canonical : ∀ v a, f.decode v = some a → f.decode v.canonical = some a

/-! ## Canonical records -/

theorem lookup_eq_getLast? (name : String) (members : List (String × Json)) :
    lookup name members = (named name members).getLast? := by
  induction members with
  | nil => rfl
  | cons member members ih =>
    obtain ⟨k, v⟩ := member
    rw [lookup, ih, named_cons]
    by_cases own : k = name
    · rw [if_pos own, if_pos own, List.getLast?_cons]
      cases (named name members).getLast? <;> rfl
    · rw [if_neg own, if_neg own]
      cases (named name members).getLast? <;> rfl

theorem named_of_sorted {table : List (String × Json)} (sorted : Table.Sorted table)
    (name : String) : named name table = (Table.find? name table).toList := by
  induction table with
  | nil => rfl
  | cons entry rest ih =>
    obtain ⟨k, v⟩ := entry
    obtain ⟨least, behind⟩ := List.pairwise_cons.1 sorted
    rw [named_cons, Table.find?_cons, ih behind]
    by_cases own : k = name
    · have absent : Table.find? name rest = none := by
        rw [← Option.not_isSome_iff_eq_none, Table.isSome_find?_iff]
        intro mem
        obtain ⟨entry, entry_mem, same⟩ := List.mem_map.1 mem
        exact String.lt_irrefl k ((own.trans same.symm) ▸ least entry entry_mem)
      rw [if_pos own, if_pos own, absent]
      rfl
    · rw [if_neg own, if_neg own]

/-- A name has its last value only in the canonical form. -/
theorem named_canonical (name : String) (members : List (String × Json)) :
    named name (Table.ofList (canonicalMembers members)) =
      ((named name members).getLast?.map canonical).toList := by
  rw [named_of_sorted (Table.sorted_ofList _), Table.find?_ofList, ← lookup_eq_lookup_reverse,
    lookup_canonicalMembers, lookup_eq_getLast?]

namespace RecordField

variable {α : Type} {field : RecordField α} {a : α}

theorem valueOf_canonical
    (each : ∀ v a, field.format.decode v = some a → field.format.decode v.canonical = some a)
    {vs : List Json} (value : field.valueOf vs = some a) :
    field.valueOf (vs.getLast?.map canonical).toList = some a := by
  match vs with
  | [] => exact value
  | [v] => exact each v a value
  | _ :: _ :: _ => exact nomatch value

end RecordField

namespace Fields

/-- The formats of all fields are lawful. -/
def Lawful : {αs : List Type} → Fields αs → Nat → Prop
  | _, nil, _ => True
  | _, cons field rest, levels => field.format.Lawful levels ∧ rest.Lawful levels

variable {αs : List Type} {fields : Fields αs} {levels : Nat}

theorem Lawful.faithful (h : fields.Lawful levels) : fields.Faithful := by
  induction fields with
  | nil => trivial
  | cons field rest ih => exact ⟨h.1.faithful, ih h.2⟩

theorem names_encode (fields : Fields αs) (as : Values αs) :
    (fields.encode as).map (·.1) = fields.names := by
  induction fields with
  | nil => rfl
  | cons field rest ih =>
    obtain ⟨a, as⟩ := as
    exact congrArg (field.name :: ·) (ih as)

theorem Lawful.of_mem_encode (h : fields.Lawful levels) {as : Values αs} {member : String × Json}
    (mem : member ∈ fields.encode as) : Integral member.2 ∧ Within levels member.2 := by
  induction fields with
  | nil => exact nomatch mem
  | cons field rest ih =>
    obtain ⟨a, as⟩ := as
    rcases List.mem_cons.1 mem with rfl | mem
    · exact ⟨h.1.integral a, h.1.within a⟩
    · exact ih h.2 mem

theorem Lawful.valuesOf_encode (h : fields.Lawful levels) (distinct : fields.names.Nodup)
    (as : Values αs) : fields.valuesOf (fields.encode as) = some as := by
  induction fields with
  | nil => rfl
  | cons field rest ih =>
    obtain ⟨a, as⟩ := as
    obtain ⟨other, distinct⟩ := List.nodup_cons.1 distinct
    have apart : ∀ member ∈ rest.encode as, member.1 ≠ field.name := by
      intro member mem same
      exact other (rest.names_encode as ▸ same ▸ List.mem_map_of_mem mem)
    have own : named field.name ((cons field rest).encode (a, as)) = [field.format.encode a] := by
      have none_behind := (named_eq_nil_iff field.name (rest.encode as)).2 apart
      rw [encode, named_cons, if_pos rfl, none_behind]
    have behind : others field.name ((cons field rest).encode (a, as)) = rest.encode as := by
      rw [encode, others_cons, if_pos rfl, others, List.filter_eq_self]
      simpa using apart
    refine valuesOf_cons_eq_some other ?_ ?_
    · rw [own]
      exact h.1.decode_encode a
    · rw [← valuesOf_others other, behind]
      exact ih h.2 distinct as

theorem Lawful.valuesOf_canonical (h : fields.Lawful levels) (distinct : fields.names.Nodup)
    {members : List (String × Json)} {as : Values αs}
    (decoded : fields.valuesOf members = some as) :
    fields.valuesOf (Table.ofList (canonicalMembers members)) = some as := by
  induction fields with
  | nil => exact decoded
  | cons field rest ih =>
    obtain ⟨other, distinct⟩ := List.nodup_cons.1 distinct
    obtain ⟨a, value, decoded⟩ := Option.bind_eq_some_iff.1 decoded
    obtain ⟨as, behind, rfl⟩ := Option.map_eq_some_iff.1 decoded
    rw [valuesOf_others other] at behind
    refine valuesOf_cons_eq_some other ?_ (ih h.2 distinct behind)
    rw [named_canonical]
    exact RecordField.valueOf_canonical h.1.decode_canonical value

theorem Lawful.decodeItems_canonical (h : fields.Lawful levels) {vs : List Json} {as : Values αs}
    (decoded : fields.decodeItems vs = some as) :
    fields.decodeItems (vs.map canonical) = some as := by
  induction fields generalizing vs with
  | nil =>
    cases vs with
    | nil => exact decoded
    | cons => exact nomatch decoded
  | cons field rest ih =>
    rw [decodeItems_cons] at decoded ⊢
    obtain ⟨a, value, decoded⟩ := Option.bind_eq_some_iff.1 decoded
    obtain ⟨as, behind, rfl⟩ := Option.map_eq_some_iff.1 decoded
    have own : field.valueOf (vs.map canonical).head?.toList = some a := by
      cases vs with
      | nil => exact value
      | cons v vs => exact h.1.decode_canonical v a value
    rw [own, ← List.map_tail, ih h.2 behind]
    rfl

end Fields

/-! ## Lawful formats -/

namespace Format

variable {α β : Type} {f : Format α} {levels : Nat}

theorem lawful_text (levels : Nat) : Format.text.Lawful levels where
  faithful := faithful_text
  decode_encode _ := rfl
  integral := .text
  within := .text
  decode_canonical v s decoded := by
    cases v with
    | text s => exact decoded
    | _ => exact nomatch decoded

theorem lawful_boolean (levels : Nat) : Format.boolean.Lawful levels where
  faithful := faithful_boolean
  decode_encode _ := rfl
  integral := .boolean
  within := .boolean
  decode_canonical v b decoded := by
    cases v with
    | boolean b => exact decoded
    | _ => exact nomatch decoded

/-- Integers that stand for the values of a type, if they are in its range. -/
theorem lawful_integer (name : String) {lo hi : Int} (least : -0x8000000000000000 ≤ lo)
    (greatest : hi < 0x10000000000000000) (forth : Int → α) (back : α → Int)
    (inside : ∀ a, lo ≤ back a ∧ back a ≤ hi) (inverse : ∀ a, forth (back a) = a) (levels : Nat) :
    ((integer name lo hi).map forth back).Lawful levels where
  faithful := (faithful_integer name lo hi).map forth back
  decode_encode a := by
    have decoded : (integer name lo hi).decode (.integer (back a)) = some (back a) :=
      if_pos (inside a)
    exact (congrArg (Option.map forth) decoded).trans (congrArg some (inverse a))
  integral a :=
    .integer (Int.le_trans least (inside a).1) (Int.lt_of_le_of_lt (inside a).2 greatest)
  within a := .integer (back a)
  decode_canonical v a decoded := by
    cases v with
    | integer n => exact decoded
    | _ => exact nomatch decoded

theorem lawful_uint32 (levels : Nat) : uint32.Lawful levels := by
  refine lawful_integer "u32" (by decide) (by decide) _ _ (fun n => ?_) (fun n => ?_) levels
  · have := n.toNat_lt
    omega
  · simp

theorem lawful_int32 (levels : Nat) : int32.Lawful levels := by
  refine lawful_integer "i32" (by decide) (by decide) _ _ (fun n => ?_) (fun n => ?_) levels
  · have := n.le_toInt
    have := n.toInt_lt
    omega
  · simp

theorem lawful_int64 (levels : Nat) : int64.Lawful levels := by
  refine lawful_integer "i64" (by decide) (by decide) _ _ (fun n => ?_) (fun n => ?_) levels
  · have := n.le_toInt
    have := n.toInt_lt
    omega
  · simp

theorem Lawful.map (h : f.Lawful levels) (forth : α → β) (back : β → α)
    (inverse : ∀ b, forth (back b) = b) : (f.map forth back).Lawful levels where
  faithful := h.faithful.map forth back
  decode_encode b :=
    (congrArg (Option.map forth) (h.decode_encode (back b))).trans (congrArg some (inverse b))
  integral b := h.integral (back b)
  within b := h.within (back b)
  decode_canonical v b decoded := by
    obtain ⟨a, found, rfl⟩ := Option.map_eq_some_iff.1 decoded
    exact congrArg (Option.map forth) (h.decode_canonical v a found)

theorem decode_optional {v : Json} (present : v ≠ .null) :
    f.optional.decode v = (f.decode v).map some := by
  cases v with
  | null => exact absurd rfl present
  | _ => rfl

theorem canonical_ne_null {v : Json} (present : v ≠ .null) : v.canonical ≠ .null := by
  cases v with
  | null => exact absurd rfl present
  | list items => exact canonical_list items ▸ nofun
  | object members => exact canonical_object members ▸ nofun
  | _ => exact nofun

/-- Nothing is written as null, which no value must be written as. -/
theorem Lawful.optional (h : f.Lawful levels) (present : ∀ a, f.encode a ≠ .null) :
    f.optional.Lawful levels where
  faithful := h.faithful.optional
  decode_encode a := by
    cases a with
    | none => rfl
    | some a =>
      exact (decode_optional (present a)).trans (congrArg (Option.map some) (h.decode_encode a))
  integral a := by
    cases a with
    | none => exact .null
    | some a => exact h.integral a
  within a := by
    cases a with
    | none => exact .null
    | some a => exact h.within a
  decode_canonical v a decoded := by
    by_cases null : v = .null
    · subst null
      exact decoded
    · rw [decode_optional null] at decoded
      obtain ⟨a, found, rfl⟩ := Option.map_eq_some_iff.1 decoded
      rw [decode_optional (canonical_ne_null null), h.decode_canonical v a found]
      rfl

theorem Lawful.list (h : f.Lawful levels) : f.list.Lawful (levels + 1) where
  faithful := h.faithful.list
  decode_encode as := by
    refine (decodeAll_eq_some_iff f _ as).2 (List.forall₂_map_left_iff.2 ?_)
    exact List.forall₂_same.2 fun a _ => h.decode_encode a
  integral as := by
    refine .list fun v mem => ?_
    obtain ⟨a, -, rfl⟩ := List.mem_map.1 mem
    exact h.integral a
  within as := by
    refine .list fun v mem => ?_
    obtain ⟨a, -, rfl⟩ := List.mem_map.1 mem
    exact h.within a
  decode_canonical v as decoded := by
    cases v with
    | list vs =>
      have each := (decodeAll_eq_some_iff f vs as).1 decoded
      rw [canonical_list]
      refine (decodeAll_eq_some_iff f _ as).2 (List.forall₂_map_left_iff.2 ?_)
      exact each.imp h.decode_canonical
    | _ => exact nomatch decoded

/-- Names are given to all values, and different ones. -/
theorem lawful_choice [BEq α] {choices : List (String × α)}
    (named : ∀ a, (choice choices).decode ((choice choices).encode a) = some a) (levels : Nat) :
    (choice choices).Lawful levels where
  faithful := faithful_choice choices
  decode_encode := named
  integral a := by
    unfold choice
    dsimp only
    split
    · exact .text _
    · exact .null
  within a := by
    unfold choice
    dsimp only
    split
    · exact .text _
    · exact .null
  decode_canonical v a decoded := by
    unfold choice at decoded
    dsimp only at decoded
    split at decoded
    · exact decoded
    · exact decoded
    · exact nomatch decoded

theorem lawful_record {αs : List Type} {fields : Fields αs} (name : String)
    (distinct : fields.names.Nodup) (h : fields.Lawful levels) :
    (record name fields).Lawful (levels + 1) where
  faithful := faithful_record name h.faithful
  decode_encode as :=
    (decode_record_object name fields (fields.encode as)).trans (h.valuesOf_encode distinct as)
  integral as := .object fun _ mem => (h.of_mem_encode mem).1
  within as := .object fun _ mem => (h.of_mem_encode mem).2
  decode_canonical v as decoded := by
    cases v with
    | object members =>
      rw [decode_record_object] at decoded
      rw [canonical_object, decode_record_object]
      exact h.valuesOf_canonical distinct decoded
    | list vs =>
      rw [canonical_list]
      exact h.decodeItems_canonical decoded
    | _ => exact nomatch decoded

/-! ## Values in bytes -/

theorem Lawful.ofBytes_encode (h : f.Lawful nestingLimit) (a : α) :
    f.ofBytes (f.encode a).toBytes = .ok a :=
  h.faithful.ofBytes_toBytes (h.integral a) (h.within a) (h.decode_encode a)

theorem Lawful.ofBytes_canonical (h : f.Lawful nestingLimit) (a : α) :
    f.ofBytes (f.encode a).canonical.toBytes = .ok a :=
  h.faithful.ofBytes_toBytes (h.integral a).canonical (h.within a).canonical
    (h.decode_canonical _ a (h.decode_encode a))

end Format

end Json

/-! ## Flags and segments -/

open Json (Format)

theorem Flag.Kind.lawful_format (levels : Nat) : Flag.Kind.format.Lawful levels :=
  Format.lawful_choice (fun kind => by cases kind <;> decide +kernel) levels

theorem Flag.State.lawful_format (levels : Nat) : Flag.State.format.Lawful levels :=
  Format.lawful_choice (fun state => by cases state <;> decide +kernel) levels

section

variable (n : Nat)

theorem Variation.lawful_format : Variation.format.Lawful (n + 1) := by
  refine (Format.lawful_record _ (by decide) ?_).map _ _ fun _ => rfl
  exact ⟨Format.lawful_text n, Format.lawful_text n, (Format.lawful_text n).optional nofun, trivial⟩

theorem WeightedVariation.lawful_format : WeightedVariation.format.Lawful (n + 1) := by
  refine (Format.lawful_record _ (by decide) ?_).map _ _ fun _ => rfl
  exact ⟨Format.lawful_text n, Format.lawful_uint32 n, trivial⟩

theorem Distribution.lawful_format : Distribution.format.Lawful (n + 3) := by
  refine (Format.lawful_record _ (by decide) ?_).map _ _ fun _ => rfl
  exact ⟨Format.lawful_text _, (WeightedVariation.lawful_format n).list, trivial⟩

theorem Serve.lawful_format : Serve.format.Lawful (n + 4) := by
  refine (Format.lawful_record _ (by decide) ?_).map _ _ fun _ => rfl
  exact ⟨(Format.lawful_text _).optional nofun, (Distribution.lawful_format n).optional nofun,
    trivial⟩

theorem Clause.lawful_format : Clause.format.Lawful (n + 2) := by
  refine (Format.lawful_record _ (by decide) ?_).map _ _ fun _ => rfl
  exact ⟨Format.lawful_text _, Format.lawful_text _, (Format.lawful_text n).list,
    Format.lawful_boolean _, trivial⟩

theorem Rule.lawful_format : Rule.format.Lawful (n + 5) := by
  refine (Format.lawful_record _ (by decide) ?_).map _ _ fun _ => rfl
  exact ⟨(Format.lawful_text _).optional nofun, Format.lawful_int32 _,
    (Clause.lawful_format (n + 1)).list, Serve.lawful_format n, trivial⟩

theorem ListedTarget.lawful_format : ListedTarget.format.Lawful (n + 1) := by
  refine (Format.lawful_record _ (by decide) ?_).map _ _ fun _ => rfl
  exact ⟨Format.lawful_text n, (Format.lawful_text n).optional nofun, trivial⟩

theorem TargetMap.lawful_format : TargetMap.format.Lawful (n + 3) := by
  refine (Format.lawful_record _ (by decide) ?_).map _ _ fun _ => rfl
  exact ⟨Format.lawful_text _, (ListedTarget.lawful_format n).list, (Format.lawful_text _).list,
    trivial⟩

theorem Prerequisite.lawful_format : Prerequisite.format.Lawful (n + 2) := by
  refine (Format.lawful_record _ (by decide) ?_).map _ _ fun _ => rfl
  exact ⟨Format.lawful_text _, (Format.lawful_text n).list, trivial⟩

theorem Flag.lawful_format : Flag.format.Lawful (n + 7) := by
  refine (Format.lawful_record _ (by decide) ?_).map _ _ fun _ => rfl
  exact ⟨Format.lawful_text _, Flag.Kind.lawful_format _, Flag.State.lawful_format _,
    (Variation.lawful_format (n + 4)).list, Format.lawful_text _, Serve.lawful_format (n + 2),
    (Rule.lawful_format n).list, (TargetMap.lawful_format (n + 2)).list,
    (Prerequisite.lawful_format (n + 3)).list, Format.lawful_int64 _, trivial⟩

theorem Segment.lawful_format : Segment.format.Lawful (n + 4) := by
  refine (Format.lawful_record _ (by decide) ?_).map _ _ fun _ => rfl
  exact ⟨Format.lawful_text _, (Format.lawful_text _).optional nofun,
    (ListedTarget.lawful_format (n + 1)).list, (ListedTarget.lawful_format (n + 1)).list,
    (Clause.lawful_format n).list, Format.lawful_int64 _, trivial⟩

end

end FlagHost

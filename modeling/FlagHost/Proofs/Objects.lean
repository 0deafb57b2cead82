import FlagHost.Proofs.Decoding
import FlagHost.Proofs.Skipping

/-!
# Objects as they are written

`Members first members s` says that the bytes `s` write what is left of an object: these members,
whose values are given as bytes, in this order, with any spellings of their names and with blanks
wherever they may stand. Main statement: a record is read from such bytes as it is decoded from
documents of its fields, and what is written for other names does not matter.
-/

namespace FlagHost.Json

/-- The bytes write the members and the closing bracket of an object. -/
inductive Members : Bool → List (String × Bytes) → Bytes → Prop where
  | closed (first : Bool) {blanks : Bytes} (blank : Blank blanks) :
      Members first [] (blanks ++ [125])
  | member {first : Bool} {separator before text after blanks v s : Bytes} {name : String}
      {members : List (String × Bytes)} (separates : Separates first separator)
      (before_blank : Blank before) (spells : Spells name.toList text) (after_blank : Blank after)
      (blank : Blank blanks) (rest : Members false members s) :
      Members first ((name, v) :: members)
        (separator ++ before ++ (34 :: text ++ [34]) ++ after ++ [58] ++ blanks ++ v ++ s)

namespace Members

variable {first : Bool} {members : List (String × Bytes)} {s : Bytes}

theorem some_byte (h : Members first members s) : s ≠ [] := by
  cases h <;> simp

theorem ended (h : Members false members s) : Ended s := by
  cases h with
  | closed _ blank => exact blank.ended_append (ended_cons (by decide) [])
  | member separates =>
    cases separates with
    | comma blank =>
      simp only [List.append_assoc]
      exact blank.ended_append (ended_cons (by decide) _)

theorem length_lt (h : Members first members s) : members.length < s.length := by
  induction h with
  | closed => simp
  | member _ _ _ _ _ _ ih =>
    simp only [List.length_append, List.length_cons]
    omega

theorem length_le_of_mem (h : Members first members s) {member : String × Bytes}
    (mem : member ∈ members) : member.2.length ≤ s.length := by
  induction h with
  | closed => exact nomatch mem
  | member _ _ _ _ _ _ ih =>
    simp only [List.length_append]
    rcases List.mem_cons.1 mem with rfl | mem
    · dsimp only
      omega
    · have := ih mem
      omega

end Members

theorem nextName?_closed (first : Bool) {blanks : Bytes} (blank : Blank blanks) (rest : Bytes) :
    nextName? first (blanks ++ 125 :: rest) = .ok none := by
  rw [nextName?, blank.skipBlanks_cons rfl]
  rfl

theorem endObject_append {blanks : Bytes} (blank : Blank blanks) (rest : Bytes) :
    endObject (blanks ++ 125 :: rest) = .ok rest := by
  rw [endObject, blank.skipBlanks_cons rfl]
  rfl

theorem nextName?_append {first : Bool} {separator before text : Bytes} {name : String}
    (separates : Separates first separator) (before_blank : Blank before)
    (spells : Spells name.toList text) (rest : Bytes) :
    nextName? first (separator ++ (before ++ 34 :: (text ++ 34 :: rest))) =
      .ok (some (name, rest)) := by
  have read := readText_of_spells spells rest
  rw [String.ofList_toList] at read
  cases separates with
  | first =>
    rw [List.nil_append, nextName?, before_blank.skipBlanks_cons rfl]
    simp [read, Except.map]
  | comma comma_blank =>
    rw [List.append_assoc, List.singleton_append, nextName?, comma_blank.skipBlanks_cons rfl]
    simp [before_blank.skipBlanks_cons, isBlankByte, read, Except.map]

/-! ## Fields -/

/-- The bytes of a value are read as the document is decoded. -/
def Format.ReadsAs {α : Type} (f : Format α) (bounds : Bounds) (v : Bytes) (document : Json) :
    Prop :=
  ∀ a, f.decode document = some a → ∀ blanks rest, Blank blanks → Ended rest →
    f.read bounds (blanks ++ (v ++ rest)) = .ok (a, rest)

theorem Format.readsAs_text {s : Bytes} {t : String} (spells : Spells t.toList s)
    (bounds : Bounds) : Format.text.ReadsAs bounds (34 :: s ++ [34]) (.text t) := by
  intro a decoded blanks rest blank _
  obtain rfl := Option.some.inj decoded
  have read := readText_of_spells spells rest
  rw [String.ofList_toList] at read
  simp only [List.append_assoc, List.cons_append, List.nil_append]
  rw [Format.text]
  dsimp only
  rw [blank.skipBlanks_cons rfl]
  exact read

theorem Format.ReadsAs.optional {α : Type} {f : Format α} {bounds : Bounds} {b : UInt8} {s : Bytes}
    {document : Json} (h : f.ReadsAs bounds (b :: s) document) (no_blank : isBlankByte b = false)
    (no_null : b ≠ 110) (other : document ≠ .null) :
    f.optional.ReadsAs bounds (b :: s) document := by
  intro a decoded blanks rest blank ended
  have present : (f.decode document).map some = some a := by
    cases document with
    | null => exact absurd rfl other
    | _ => exact decoded
  obtain ⟨found, found_decoded, rfl⟩ := Option.map_eq_some_iff.1 present
  have read := h found found_decoded [] rest Blank.nil ended
  rw [List.cons_append, Format.optional]
  dsimp only
  rw [blank.skipBlanks_cons no_blank]
  split
  · next same => exact absurd (List.cons.inj same).1 no_null
  · exact congrArg (Except.map _) read

theorem Format.readsAs_optional_null {α : Type} (f : Format α) (bounds : Bounds) :
    f.optional.ReadsAs bounds [110, 117, 108, 108] .null := by
  intro a decoded blanks rest blank _
  obtain rfl := Option.some.inj decoded
  rw [Format.optional]
  dsimp only
  rw [List.cons_append, blank.skipBlanks_cons rfl]
  rfl

/-- The text that bytes write, or null. -/
def textOrNull (v : Bytes) : Json :=
  match Format.text.read ⟨0, 0⟩ v with
  | .ok (t, _) => .text t
  | .error _ => .null

theorem textOrNull_of_spells {s : Bytes} {t : String} (spells : Spells t.toList s) :
    textOrNull (34 :: s ++ [34]) = .text t := by
  have read := Format.readsAs_text spells ⟨0, 0⟩ t rfl [] [] Blank.nil Ended.nil
  rw [List.nil_append, List.append_nil] at read
  rw [textOrNull, read]

namespace Fields

variable {α : Type} {αs : List Type}

/-- A member is read for its field as the document is decoded. What no field is named after is only
written correctly. -/
def ReadsAs (bounds : Bounds) (name : String) (v : Bytes) (document : Json) :
    {αs : List Type} → Fields αs → Prop
  | _, nil => Written .value v
  | _, cons field rest =>
    if field.name = name then field.format.ReadsAs bounds v document
    else rest.ReadsAs bounds name v document

theorem readsAs_cons {bounds : Bounds} {name : String} {v : Bytes} {document : Json}
    {field : RecordField α} {rest : Fields αs}
    (own : field.name = name → field.format.ReadsAs bounds v document)
    (other : field.name ≠ name → rest.ReadsAs bounds name v document) :
    (cons field rest).ReadsAs bounds name v document := by
  rw [ReadsAs]
  split
  · next same => exact own same
  · next different => exact other different

/-- Fills the slot of a name with what is read. -/
def readSlot (bounds : Bounds) (name : String) (fields : Fields αs) (slots : Slots αs) :
    StateT Bytes (Except Fault) (Slots αs) :=
  fields.fill name (fun f => StateT.mk (f.read bounds)) slots

theorem readSlot_cons (bounds : Bounds) (name : String) (field : RecordField α) (rest : Fields αs)
    (slot : Option α) (slots : Slots αs) (s : Bytes) :
    (cons field rest).readSlot bounds name (slots.cons slot) s =
      if field.name = name then
        (field.format.read bounds s).map fun (a, s) => (slots.cons (some a), s)
      else (rest.readSlot bounds name slots s).map fun (slots, s) => (slots.cons slot, s) := by
  by_cases own : field.name = name
  · rw [readSlot, Slots.cons, fill, if_pos own, if_pos own]
    change (field.format.read bounds s).bind (fun (a, s) => .ok ((some a, slots), s)) = _
    cases field.format.read bounds s <;> rfl
  · rw [readSlot, Slots.cons, fill, if_neg own, if_neg own]
    change (rest.readSlot bounds name slots s).bind (fun (slots, s) => .ok ((slot, slots), s)) = _
    cases rest.readSlot bounds name slots s <;> rfl

theorem ReadsAs.written {bounds : Bounds} {name : String} {v : Bytes} {document : Json}
    {fields : Fields αs} {slots : Slots αs} (h : fields.ReadsAs bounds name v document)
    (unknown : fields.met? name slots = none) : Written .value v := by
  induction fields with
  | nil => exact h
  | cons field rest ih =>
    obtain ⟨slot, slots⟩ := slots
    by_cases own : field.name = name
    · exact nomatch (if_pos own).symm.trans unknown
    · exact ih ((if_neg own).mp h) ((if_neg own).symm.trans unknown)

theorem ReadsAs.readSlot {bounds : Bounds} {name : String} {v : Bytes} {document : Json}
    {fields : Fields αs} {slots slots' : Slots αs} (h : fields.ReadsAs bounds name v document)
    (known : fields.met? name slots ≠ none)
    (filled : fields.fill name (fun f => f.decode document) slots = some slots')
    {blanks rest : Bytes} (blank : Blank blanks) (ended : Ended rest) :
    fields.readSlot bounds name slots (blanks ++ (v ++ rest)) = .ok (slots', rest) := by
  induction fields with
  | nil => exact absurd rfl known
  | cons field fields ih =>
    obtain ⟨slot, slots⟩ := slots
    have fills := fill_cons field fields slot slots name document
    have reads := readSlot_cons bounds name field fields slot slots (blanks ++ (v ++ rest))
    rw [Slots.cons] at fills reads
    rw [fills] at filled
    rw [reads]
    by_cases own : field.name = name
    · rw [if_pos own] at filled ⊢
      obtain ⟨a, decoded, rfl⟩ := Option.map_eq_some_iff.1 filled
      have fits : field.format.ReadsAs bounds v document := (if_pos own).mp h
      rw [fits a decoded blanks rest blank ended]
      rfl
    · rw [if_neg own] at filled ⊢
      obtain ⟨behind, rest_filled, rfl⟩ := Option.map_eq_some_iff.1 filled
      have fits : fields.ReadsAs bounds name v document := (if_neg own).mp h
      have rest_known : fields.met? name slots ≠ none := fun unknown =>
        known ((if_neg own).trans unknown)
      rw [ih fits rest_known rest_filled]
      rfl

/-- Members of a name that no field has do not matter. -/
theorem valuesOf_others {name : String} {fields : Fields αs} (unknown : name ∉ fields.names)
    (members : List (String × Json)) :
    fields.valuesOf (others name members) = fields.valuesOf members := by
  induction fields generalizing members with
  | nil => rfl
  | cons field rest ih =>
    obtain ⟨other, rest_unknown⟩ := not_or.1 (mt List.mem_cons.2 unknown)
    have order :
        others field.name (others name members) = others name (others field.name members) := by
      simp [others, List.filter_filter, Bool.and_comm]
    rw [valuesOf, valuesOf, named_others (Ne.symm other), order, ih rest_unknown]

theorem valuesOf_cons_eq_some {field : RecordField α} {rest : Fields αs}
    {members : List (String × Json)} {a : α} {as : Values αs} (distinct : field.name ∉ rest.names)
    (own : field.valueOf (named field.name members) = some a)
    (behind : rest.valuesOf members = some as) :
    (cons field rest).valuesOf members = some (as.cons a) := by
  rw [valuesOf, own, Option.bind_some, valuesOf_others distinct, behind]
  rfl

/-- A member is read behind its name. -/
theorem readMember_append {bounds : Bounds} {name : String} {v : Bytes} {document : Json}
    {fields : Fields αs} {slots slots' : Slots αs} {members : List (String × Json)}
    (fits : fields.ReadsAs bounds name v document) (short : v.length ≤ bounds.items)
    (decoded : fields.decodeMembers slots ((name, document) :: members) = some slots')
    {after blanks rest : Bytes} (after_blank : Blank after) (blank : Blank blanks)
    (ended : Ended rest) :
    ∃ next, fields.readMember bounds slots name (after ++ 58 :: (blanks ++ (v ++ rest))) =
        .ok (next, rest) ∧ fields.decodeMembers next members = some slots' := by
  have colon := passColon_append after_blank (blanks ++ (v ++ rest))
  rw [decodeMembers_member] at decoded
  unfold readMember
  cases met : fields.met? name slots with
  | none =>
    rw [met] at decoded
    have skipped := skipValue_of_written (fits.written met) blank ended short
    exact ⟨slots, by simp [colon, ok_bind, skipped, pure, Except.pure], decoded⟩
  | some done =>
    rw [met] at decoded
    cases done with
    | true => exact nomatch decoded
    | false =>
      obtain ⟨next, filled, next_decoded⟩ := Option.bind_eq_some_iff.1 decoded
      have known : fields.met? name slots ≠ none := by simp [met]
      have read := fits.readSlot known filled blank ended
      rw [readSlot] at read
      exact ⟨next, by simp [colon, ok_bind, read], next_decoded⟩

/-- The members of an object are read as their documents are decoded. -/
theorem readObject_append {bounds : Bounds} {fields : Fields αs} {document : Bytes → Json}
    {first : Bool} {members : List (String × Bytes)} {s : Bytes} (written : Members first members s)
    (fits : ∀ member ∈ members,
      fields.ReadsAs bounds member.1 member.2 (document member.2))
    (short : ∀ member ∈ members, member.2.length ≤ bounds.items) {slots slots' : Slots αs}
    (decoded : fields.decodeMembers slots
      (members.map fun member => (member.1, document member.2)) = some slots') {as : Values αs}
    (complete : fields.complete slots' = .ok as) {more : Nat} (few : members.length < more)
    (rest : Bytes) :
    fields.readObject bounds more first slots (s ++ rest) = .ok (as, rest) := by
  induction written generalizing slots more with
  | @closed first blanks blank =>
    obtain ⟨more, rfl⟩ := Nat.exists_eq_add_one.2 (Nat.zero_lt_of_lt few)
    obtain rfl := Option.some.inj decoded
    have at_end := nextName?_closed first blank rest
    have passed := endObject_append blank rest
    simp only [List.append_assoc, List.singleton_append]
    rw [readObject, at_end, ok_bind]
    simp only [passed, ok_bind, complete]
    rfl
  | @member first separator before text after blanks v s name members separates before_blank spells
      after_blank blank written ih =>
    obtain ⟨more, rfl⟩ := Nat.exists_eq_add_one.2 (Nat.zero_lt_of_lt few)
    have goes_on := written.ended.append written.some_byte rest
    have next := nextName?_append separates before_blank spells
      (after ++ 58 :: (blanks ++ (v ++ (s ++ rest))))
    obtain ⟨filled, read, rest_decoded⟩ := readMember_append (fits _ List.mem_cons_self)
      (short _ List.mem_cons_self) decoded after_blank blank goes_on
    have behind := ih (fun member mem => fits member (List.mem_cons_of_mem _ mem))
      (fun member mem => short member (List.mem_cons_of_mem _ mem)) rest_decoded
      (Nat.lt_of_succ_lt_succ few)
    simp only [List.append_assoc, List.cons_append, List.nil_append]
    rw [readObject, next, ok_bind]
    simp only [read, ok_bind]
    exact behind

end Fields

/-- A record is read from the members of an object as it is decoded. -/
theorem Format.read_record {αs : List Type} {fields : Fields αs} (name : String)
    {document : Bytes → Json} {members : List (String × Bytes)} {levels items : Nat} {s : Bytes}
    (written : Members true members s)
    (fits : ∀ member ∈ members,
      fields.ReadsAs ⟨levels, items⟩ member.1 member.2 (document member.2))
    (short : s.length ≤ items) {as : Values αs}
    (decoded : fields.valuesOf (members.map fun member => (member.1, document member.2)) = some as)
    {blanks : Bytes} (blank : Blank blanks) (rest : Bytes) :
    (Format.record name fields).read ⟨levels + 1, items⟩ (blanks ++ 123 :: (s ++ rest)) =
      .ok (as, rest) := by
  rw [← Fields.decodeMembers_bind_complete] at decoded
  obtain ⟨slots, filled, complete⟩ := Option.bind_eq_some_iff.1 decoded
  have complete : fields.complete slots = .ok as := by
    cases found : fields.complete slots with
    | ok as' =>
      rw [found] at complete
      exact congrArg Except.ok (Option.some.inj complete)
    | error name =>
      rw [found] at complete
      exact nomatch complete
  have read := Fields.readObject_append written fits
    (fun member mem => Nat.le_trans (written.length_le_of_mem mem) short) filled complete
    (Nat.lt_of_lt_of_le written.length_lt short) rest
  rw [Format.record]
  dsimp only
  rw [blank.skipBlanks_cons rfl]
  simp [read]

/-! ## Whole documents -/

theorem readAll_eq_ok_iff {α : Type} (reads : Reads α) (bytes : Bytes) (a : α) :
    readAll reads bytes = .ok a ↔
      ∃ rest, reads ⟨nestingLimit, bytes.length + 1⟩ bytes = .ok (a, rest) ∧
        skipBlanks rest = [] := by
  rw [readAll, bind_eq_ok_iff]
  constructor
  · rintro ⟨⟨found, rest⟩, read, at_end⟩
    dsimp only at at_end
    split at at_end
    · next blank =>
      obtain rfl := Except.ok.inj at_end
      exact ⟨rest, read, blank⟩
    · exact nomatch at_end
  · rintro ⟨rest, read, blank⟩
    refine ⟨(a, rest), read, ?_⟩
    dsimp only
    rw [blank]
    rfl

/-- The value of a record that is written as an object, with blanks around it. -/
theorem Format.ofBytes_record {αs : List Type} {β : Type} {fields : Fields αs} (name : String)
    (forth : Values αs → β) (back : β → Values αs) {document : Bytes → Json}
    {members : List (String × Bytes)} {s before after : Bytes} (before_blank : Blank before)
    (written : Members true members s) (after_blank : Blank after)
    (fits : ∀ items, s.length ≤ items → ∀ member ∈ members,
      fields.ReadsAs ⟨nestingLimit - 1, items⟩ member.1 member.2 (document member.2))
    {as : Values αs}
    (decoded :
      fields.valuesOf (members.map fun member => (member.1, document member.2)) = some as) :
    ((Format.record name fields).map forth back).ofBytes (before ++ 123 :: (s ++ after)) =
      .ok (forth as) := by
  let bytes := before ++ 123 :: (s ++ after)
  have short : s.length ≤ bytes.length + 1 := by
    simp only [bytes, List.length_append, List.length_cons]
    omega
  have levels : nestingLimit = nestingLimit - 1 + 1 := rfl
  have read := Format.read_record name written (fits _ short) short decoded before_blank after
  have at_end : skipBlanks after = [] := by
    have := after_blank.skipBlanks_append []
    rwa [List.append_nil] at this
  refine mapError_eq_ok_iff.2 ((readAll_eq_ok_iff _ _ _).2 ⟨after, ?_, at_end⟩)
  rw [levels]
  exact congrArg (Except.map _) read

end FlagHost.Json

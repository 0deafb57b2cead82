import FlagHost.Json.Format
import Mathlib.Data.List.Nodup

/-!
# Documents that have no value

`Broken f v` says why a document `v` has no value in a format `f`: it is of another type, an integer
is out of range, a name is none of the choices, or an object or a list lacks a field, has one twice,
has too many items, or holds a document that is broken in turn. Main statement: where the fields of
all records have different names, these are all reasons there are.

The members of an object are decoded one after another, into slots. For a field it only counts what
the members of its name are, so the first step is to decode an object field by field instead.
-/

namespace FlagHost.Json

/-- The values of the members of a name. -/
def named (name : String) (members : List (String × Json)) : List Json :=
  (members.filter (·.1 = name)).map (·.2)

/-- The members of other names. -/
def others (name : String) (members : List (String × Json)) : List (String × Json) :=
  members.filter (·.1 ≠ name)

theorem named_cons (name k : String) (v : Json) (members : List (String × Json)) :
    named name ((k, v) :: members) =
      if k = name then v :: named name members else named name members := by
  by_cases h : k = name <;> simp [named, h]

theorem others_cons (name k : String) (v : Json) (members : List (String × Json)) :
    others name ((k, v) :: members) =
      if k = name then others name members else (k, v) :: others name members := by
  by_cases h : k = name <;> simp [others, h]

theorem named_others {name other : String} (h : name ≠ other) (members : List (String × Json)) :
    named name (others other members) = named name members := by
  induction members with
  | nil => rfl
  | cons member members ih =>
    obtain ⟨k, v⟩ := member
    rw [others_cons, named_cons]
    by_cases aside : k = other
    · subst aside
      rw [if_pos rfl, if_neg (Ne.symm h), ih]
    · rw [if_neg aside, named_cons, ih]

theorem mem_named_iff (name : String) (v : Json) (members : List (String × Json)) :
    v ∈ named name members ↔ (name, v) ∈ members := by
  simp [named]

theorem named_eq_nil_iff (name : String) (members : List (String × Json)) :
    named name members = [] ↔ ∀ member ∈ members, member.1 ≠ name := by
  simp [named]

theorem length_named (name : String) (members : List (String × Json)) :
    (named name members).length = (members.map (·.1)).count name := by
  induction members with
  | nil => rfl
  | cons member members ih =>
    obtain ⟨k, v⟩ := member
    rw [named_cons, List.map_cons, List.count_cons, ← ih]
    by_cases h : k = name <;> simp [h]

/-! ## Records field by field -/

namespace RecordField

variable {α : Type}

/-- The value of a field for the documents that are given for it: there may be one at most. -/
def valueOf (field : RecordField α) : List Json → Option α
  | [] => field.absent
  | [v] => field.format.decode v
  | _ => none

/-- What a slot of the field comes to with the documents that are given for it. -/
def fillWith (field : RecordField α) : Option α → List Json → Option (Option α)
  | slot, [] => some slot
  | some _, _ :: _ => none
  | none, v :: vs => (field.format.decode v).bind fun a => field.fillWith (some a) vs

theorem valueOf_eq_bind (field : RecordField α) (vs : List Json) :
    field.valueOf vs = (field.fillWith none vs).bind (· <|> field.absent) := by
  match vs with
  | [] => rfl
  | [v] => cases decoded : field.format.decode v <;> simp [valueOf, fillWith, decoded]
  | v :: _ :: _ => cases decoded : field.format.decode v <;> simp [valueOf, fillWith, decoded]

theorem valueOf_eq_none_iff (field : RecordField α) (vs : List Json) :
    field.valueOf vs = none ↔
      vs = [] ∧ field.absent = none ∨ 1 < vs.length ∨
        ∃ v, vs = [v] ∧ field.format.decode v = none := by
  match vs with
  | [] => simp [valueOf]
  | [v] => simp [valueOf]
  | _ :: _ :: _ => simp [valueOf]

end RecordField

/-- The slot of a field in front of the others. -/
def Slots.cons {α : Type} {αs : List Type} (slot : Option α) (slots : Slots αs) : Slots (α :: αs) :=
  (slot, slots)

/-- The value of a field in front of the others. -/
def Values.cons {α : Type} {αs : List Type} (a : α) (as : Values αs) : Values (α :: αs) := (a, as)

namespace Fields

variable {α : Type} {αs : List Type}

theorem met?_cons (field : RecordField α) (rest : Fields αs) (slot : Option α) (slots : Slots αs)
    (name : String) :
    (cons field rest).met? name (slots.cons slot) =
      if field.name = name then some slot.isSome else rest.met? name slots := rfl

theorem fill_cons (field : RecordField α) (rest : Fields αs) (slot : Option α) (slots : Slots αs)
    (name : String) (v : Json) :
    (cons field rest).fill name (fun f => f.decode v) (slots.cons slot) =
      if field.name = name then (field.format.decode v).map fun a => slots.cons (some a)
      else (rest.fill name (fun f => f.decode v) slots).map (Slots.cons slot) := by
  by_cases own : field.name = name
  · rw [Slots.cons, fill, if_pos own, if_pos own]
    cases field.format.decode v <;> rfl
  · rw [Slots.cons, fill, if_neg own, if_neg own]
    cases rest.fill name (fun f => f.decode v) slots <;> rfl

theorem decodeMembers_member (fields : Fields αs) (slots : Slots αs) (name : String) (v : Json)
    (members : List (String × Json)) :
    fields.decodeMembers slots ((name, v) :: members) =
      match fields.met? name slots with
      | none => fields.decodeMembers slots members
      | some true => none
      | some false => (fields.fill name (fun f => f.decode v) slots).bind fun slots =>
        fields.decodeMembers slots members := rfl

/-- A field and the fields behind it are filled apart. -/
theorem decodeMembers_cons (field : RecordField α) (rest : Fields αs) (slot : Option α)
    (slots : Slots αs) (members : List (String × Json)) :
    (cons field rest).decodeMembers (slots.cons slot) members =
      (field.fillWith slot (named field.name members)).bind fun slot' =>
        (rest.decodeMembers slots (others field.name members)).map (Slots.cons slot') := by
  induction members generalizing slot slots with
  | nil => rfl
  | cons member members ih =>
    obtain ⟨k, v⟩ := member
    rw [named_cons, others_cons, decodeMembers_member, met?_cons, fill_cons]
    by_cases own : k = field.name
    · -- A slot that was filled before stops the decoding on both sides.
      subst own
      rw [if_pos rfl, if_pos rfl, if_pos rfl, if_pos rfl]
      cases slot with
      | some a => rfl
      | none =>
        rw [RecordField.fillWith]
        cases field.format.decode v with
        | none => rfl
        | some a => exact ih (some a) slots
    · -- The slot stays, and the fields behind it do what they do without the first one.
      rw [if_neg own, if_neg own, if_neg (Ne.symm own), if_neg (Ne.symm own), decodeMembers_member]
      cases rest.met? k slots with
      | none => exact ih slot slots
      | some done =>
        cases done with
        | true => cases field.fillWith slot (named field.name members) <;> rfl
        | false =>
          cases rest.fill k (fun f => f.decode v) slots with
          | none => cases field.fillWith slot (named field.name members) <;> rfl
          | some slots' => exact ih slot slots'

/-- The values of an object, each field by itself. -/
def valuesOf : {αs : List Type} → Fields αs → List (String × Json) → Option (Values αs)
  | _, nil, _ => some ()
  | _, cons field rest, members =>
    (field.valueOf (named field.name members)).bind fun a =>
      (rest.valuesOf (others field.name members)).map (Values.cons a)

theorem complete_cons (field : RecordField α) (rest : Fields αs) (slot : Option α)
    (slots : Slots αs) :
    ((cons field rest).complete (slots.cons slot)).toOption =
      (slot <|> field.absent).bind fun a => (rest.complete slots).toOption.map (Values.cons a) := by
  rw [Slots.cons, complete]
  cases (slot <|> field.absent) with
  | none => rfl
  | some a => cases rest.complete slots <;> rfl

theorem decodeMembers_bind_complete (fields : Fields αs) (members : List (String × Json)) :
    ((fields.decodeMembers fields.unmet members).bind fun slots =>
      (fields.complete slots).toOption) = fields.valuesOf members := by
  induction fields generalizing members with
  | nil =>
    induction members with
    | nil => rfl
    | cons member members ih => exact ih
  | cons field rest ih =>
    have unmet : (cons field rest).unmet = rest.unmet.cons none := rfl
    rw [unmet, decodeMembers_cons, valuesOf, ← ih, RecordField.valueOf_eq_bind]
    cases field.fillWith none (named field.name members) with
    | none => rfl
    | some slot =>
      cases rest.decodeMembers rest.unmet (others field.name members) with
      | none => cases h : (slot <|> field.absent) <;> simp
      | some slots => exact complete_cons field rest slot slots

end Fields

/-- An object is decoded field by field. -/
theorem Format.decode_record_object {αs : List Type} (name : String) (fields : Fields αs)
    (members : List (String × Json)) :
    (Format.record name fields).decode (.object members) = fields.valuesOf members :=
  fields.decodeMembers_bind_complete members

/-! ## Fields and their places -/

namespace Fields

def names : {αs : List Type} → Fields αs → List String
  | _, nil => []
  | _, cons field rest => field.name :: rest.names

/-- The field stands at the place, and none before it has its name. -/
inductive At {α : Type} (field : RecordField α) : {αs : List Type} → Fields αs → Nat → Prop where
  | here {αs : List Type} (rest : Fields αs) : At field (cons field rest) 0
  | behind {β : Type} {αs : List Type} {first : RecordField β} {rest : Fields αs} {n : Nat}
      (other : field.name ≠ first.name) (stands : At field rest n) :
      At field (cons first rest) (n + 1)

variable {α : Type} {αs : List Type} {field : RecordField α} {fields : Fields αs} {n : Nat}

theorem At.name_mem (h : At field fields n) : field.name ∈ fields.names := by
  induction h with
  | here => exact List.mem_cons_self
  | behind _ _ ih => exact List.mem_cons_of_mem _ ih

/-- Where all names differ, a field behind the first one has another name. -/
theorem At.cons {β : Type} {first : RecordField β}
    (distinct : (Fields.cons first fields).names.Nodup) (h : At field fields n) :
    At field (.cons first fields) (n + 1) := by
  refine .behind ?_ h
  rintro same
  exact (List.nodup_cons.1 distinct).1 (same ▸ h.name_mem)

theorem At.valuesOf_eq_none {members : List (String × Json)} (h : At field fields n)
    (fails : field.valueOf (named field.name members) = none) :
    fields.valuesOf members = none := by
  induction h generalizing members with
  | here => rw [valuesOf, fails, Option.bind_none]
  | behind other _ ih =>
    rw [valuesOf, ih (by rwa [named_others other])]
    exact Option.bind_fun_none _

theorem exists_at_of_valuesOf {members : List (String × Json)} (distinct : fields.names.Nodup)
    (h : fields.valuesOf members = none) :
    ∃ (α : Type) (field : RecordField α) (n : Nat), At field fields n ∧
      field.valueOf (named field.name members) = none := by
  induction fields generalizing members with
  | nil => exact nomatch h
  | cons first rest ih =>
    cases value : first.valueOf (named first.name members) with
    | none => exact ⟨_, first, 0, .here rest, value⟩
    | some a =>
      rw [valuesOf, value, Option.bind_some, Option.map_eq_none_iff] at h
      obtain ⟨α, field, n, stands, fails⟩ := ih (List.nodup_cons.1 distinct).2 h
      have stands := stands.cons distinct
      cases stands with
      | behind other stands =>
        rw [named_others other] at fails
        exact ⟨α, field, n + 1, .behind other stands, fails⟩

theorem decodeItems_cons (field : RecordField α) (rest : Fields αs) (items : List Json) :
    (cons field rest).decodeItems items =
      (field.valueOf items.head?.toList).bind fun a =>
        (rest.decodeItems items.tail).map (Values.cons a) := by
  cases items with
  | nil =>
    have value : field.valueOf [] = field.absent := rfl
    rw [decodeItems, List.head?_nil, Option.toList_none, value]
    cases field.absent <;> rfl
  | cons v items =>
    have value : field.valueOf [v] = field.format.decode v := rfl
    rw [decodeItems, List.head?_cons, Option.toList_some, value, List.tail_cons]
    cases field.format.decode v with
    | none => rfl
    | some a => cases rest.decodeItems items <;> rfl

theorem At.decodeItems_eq_none {items : List Json} (h : At field fields n)
    (fails : field.valueOf items[n]?.toList = none) : fields.decodeItems items = none := by
  induction h generalizing items with
  | here =>
    rw [← List.head?_eq_getElem?] at fails
    rw [decodeItems_cons, fails, Option.bind_none]
  | behind _ _ ih =>
    rw [← List.getElem?_tail] at fails
    rw [decodeItems_cons, ih fails]
    exact Option.bind_fun_none _

theorem decodeItems_eq_none_of_count_lt {items : List Json} (h : fields.count < items.length) :
    fields.decodeItems items = none := by
  induction fields generalizing items with
  | nil =>
    cases items with
    | nil => exact absurd h (Nat.lt_irrefl 0)
    | cons => rfl
  | cons field rest ih =>
    have more : rest.count < items.tail.length := by
      rw [List.length_tail]
      exact Nat.lt_sub_of_add_lt h
    rw [decodeItems_cons, ih more]
    exact Option.bind_fun_none _

theorem exists_at_of_decodeItems {items : List Json} (distinct : fields.names.Nodup)
    (h : fields.decodeItems items = none) :
    fields.count < items.length ∨
      ∃ (α : Type) (field : RecordField α) (n : Nat), At field fields n ∧
        field.valueOf items[n]?.toList = none := by
  induction fields generalizing items with
  | nil =>
    cases items with
    | nil => exact nomatch h
    | cons => exact .inl (Nat.succ_pos _)
  | cons first rest ih =>
    rw [decodeItems_cons] at h
    cases value : first.valueOf items.head?.toList with
    | none =>
      rw [List.head?_eq_getElem?] at value
      exact .inr ⟨_, first, 0, .here rest, value⟩
    | some a =>
      rw [value, Option.bind_some, Option.map_eq_none_iff] at h
      rcases ih (List.nodup_cons.1 distinct).2 h with more | ⟨α, field, n, stands, fails⟩
      · rw [List.length_tail] at more
        exact .inl (Nat.add_lt_of_lt_sub more)
      · rw [List.getElem?_tail] at fails
        exact .inr ⟨α, field, n + 1, stands.cons distinct, fails⟩

end Fields

/-! ## Why a document has no value -/

/-- The document has no value in the format, for one of these reasons. -/
inductive Broken : {α : Type} → Format α → Json → Prop where
  | notText {v : Json} (other : ∀ s, v ≠ .text s) : Broken .text v
  | notBoolean {v : Json} (other : ∀ b, v ≠ .boolean b) : Broken .boolean v
  | notInteger {name : String} {lo hi : Int} {v : Json} (other : ∀ n, v ≠ .integer n) :
      Broken (.integer name lo hi) v
  | outOfRange {name : String} {lo hi n : Int} (outside : n < lo ∨ hi < n) :
      Broken (.integer name lo hi) (.integer n)
  | noChoice {α : Type} [BEq α] {choices : List (String × α)} {v : Json}
      (other : ∀ choice ∈ choices, v ≠ .text choice.1 ∧ v ≠ .object [(choice.1, .null)]) :
      Broken (.choice choices) v
  | optional {α : Type} {f : Format α} {v : Json} (other : v ≠ .null) (broken : Broken f v) :
      Broken f.optional v
  | map {α β : Type} {f : Format α} {forth : α → β} {back : β → α} {v : Json}
      (broken : Broken f v) : Broken (f.map forth back) v
  | notList {α : Type} {f : Format α} {v : Json} (other : ∀ items, v ≠ .list items) :
      Broken f.list v
  | item {α : Type} {f : Format α} {v : Json} {items : List Json} (mem : v ∈ items)
      (broken : Broken f v) : Broken f.list (.list items)
  | notRecord {name : String} {αs : List Type} {fields : Fields αs} {v : Json}
      (other : ∀ members, v ≠ .object members) (other' : ∀ items, v ≠ .list items) :
      Broken (.record name fields) v
  | missing {name : String} {α : Type} {field : RecordField α} {αs : List Type}
      {fields : Fields αs} {n : Nat} {members : List (String × Json)}
      (stands : Fields.At field fields n) (needed : field.absent = none)
      (missing : ∀ member ∈ members, member.1 ≠ field.name) :
      Broken (.record name fields) (.object members)
  | repeated {name : String} {α : Type} {field : RecordField α} {αs : List Type}
      {fields : Fields αs} {n : Nat} {members : List (String × Json)}
      (stands : Fields.At field fields n) (twice : 1 < (members.map (·.1)).count field.name) :
      Broken (.record name fields) (.object members)
  | member {name : String} {α : Type} {field : RecordField α} {αs : List Type}
      {fields : Fields αs} {n : Nat} {members : List (String × Json)} {v : Json}
      (stands : Fields.At field fields n) (mem : (field.name, v) ∈ members)
      (broken : Broken field.format v) : Broken (.record name fields) (.object members)
  | tooFew {name : String} {α : Type} {field : RecordField α} {αs : List Type}
      {fields : Fields αs} {n : Nat} {items : List Json} (stands : Fields.At field fields n)
      (needed : field.absent = none) (few : items.length ≤ n) :
      Broken (.record name fields) (.list items)
  | tooMany {name : String} {αs : List Type} {fields : Fields αs} {items : List Json}
      (many : fields.count < items.length) : Broken (.record name fields) (.list items)
  | element {name : String} {α : Type} {field : RecordField α} {αs : List Type}
      {fields : Fields αs} {n : Nat} {items : List Json} {v : Json}
      (stands : Fields.At field fields n) (found : items[n]? = some v)
      (broken : Broken field.format v) : Broken (.record name fields) (.list items)

theorem Format.decodeAll_eq_none_iff {α : Type} (f : Format α) (items : List Json) :
    f.decodeAll items = none ↔ ∃ v ∈ items, f.decode v = none := by
  induction items with
  | nil => simp [decodeAll]
  | cons v items ih =>
    rw [List.exists_mem_cons_iff, ← ih, decodeAll]
    cases f.decode v with
    | none => simp
    | some a => cases f.decodeAll items <;> simp

theorem Format.decode_choice_eq_none_iff {α : Type} [BEq α] (choices : List (String × α))
    (v : Json) :
    (Format.choice choices).decode v = none ↔
      ∀ choice ∈ choices, v ≠ .text choice.1 ∧ v ≠ .object [(choice.1, .null)] := by
  have unknown (name : String) :
      choices.lookup name = none ↔ ∀ choice ∈ choices, name ≠ choice.1 := by
    simp [List.lookup_eq_none_iff]
  unfold Format.choice
  dsimp only
  split
  · next name => simp [unknown]
  · next name => simp [unknown]
  · next not_text not_object =>
    refine iff_of_true rfl fun choice _ => ⟨?_, ?_⟩
    · exact fun same => not_text choice.1 same
    · exact fun same => not_object choice.1 same

/-- A document that is broken has no value. -/
theorem Broken.decode_eq_none {α : Type} {f : Format α} {v : Json} (h : Broken f v) :
    f.decode v = none := by
  induction h with
  | @notText v other =>
    cases v with
    | text s => exact absurd rfl (other s)
    | _ => rfl
  | @notBoolean v other =>
    cases v with
    | boolean b => exact absurd rfl (other b)
    | _ => rfl
  | @notInteger _ _ _ v other =>
    cases v with
    | integer n => exact absurd rfl (other n)
    | _ => rfl
  | outOfRange outside => exact if_neg (by omega)
  | noChoice other => exact (Format.decode_choice_eq_none_iff _ _).2 other
  | @optional _ f v other _ ih =>
    cases v with
    | null => exact absurd rfl other
    | _ => exact congrArg (Option.map some) ih
  | map _ ih => exact congrArg (Option.map _) ih
  | @notList _ _ v other =>
    cases v with
    | list items => exact absurd rfl (other items)
    | _ => rfl
  | item mem _ ih => exact (Format.decodeAll_eq_none_iff _ _).2 ⟨_, mem, ih⟩
  | @notRecord _ _ _ v other other' =>
    cases v with
    | object members => exact absurd rfl (other members)
    | list items => exact absurd rfl (other' items)
    | _ => rfl
  | missing stands needed missing =>
    rw [Format.decode_record_object]
    refine stands.valuesOf_eq_none ((RecordField.valueOf_eq_none_iff _ _).2 (.inl ⟨?_, needed⟩))
    exact (named_eq_nil_iff _ _).2 missing
  | repeated stands twice =>
    rw [Format.decode_record_object]
    refine stands.valuesOf_eq_none ((RecordField.valueOf_eq_none_iff _ _).2 (.inr (.inl ?_)))
    rwa [length_named]
  | @member _ _ field _ _ _ members v stands mem _ ih =>
    rw [Format.decode_record_object]
    refine stands.valuesOf_eq_none ?_
    have mem := (mem_named_iff field.name v members).2 mem
    match named field.name members, mem with
    | [_], mem =>
      obtain rfl := List.mem_singleton.1 mem
      exact ih
    | _ :: _ :: _, _ => rfl
  | tooFew stands needed few =>
    refine stands.decodeItems_eq_none ?_
    rw [List.getElem?_eq_none few]
    exact needed
  | tooMany many => exact Fields.decodeItems_eq_none_of_count_lt many
  | element stands found _ ih =>
    refine stands.decodeItems_eq_none ?_
    rw [found]
    exact ih

/-! ## All reasons -/

/-- A document that has no value in the format is broken. -/
def Format.Explained {α : Type} (f : Format α) : Prop := ∀ v, f.decode v = none → Broken f v

/-- The formats of all fields are so. -/
def Fields.Explained : {αs : List Type} → Fields αs → Prop
  | _, nil => True
  | _, cons field rest => field.format.Explained ∧ rest.Explained

theorem Fields.Explained.of_at {α : Type} {field : RecordField α} {αs : List Type}
    {fields : Fields αs} {n : Nat} (h : fields.Explained) (stands : At field fields n) :
    field.format.Explained := by
  induction stands with
  | here => exact h.1
  | behind _ _ ih => exact ih h.2

namespace Format

variable {α β : Type}

theorem explained_text : Format.text.Explained := by
  intro v fails
  cases v with
  | text s => exact nomatch fails
  | _ => exact .notText fun s other => nomatch other

theorem explained_boolean : Format.boolean.Explained := by
  intro v fails
  cases v with
  | boolean b => exact nomatch fails
  | _ => exact .notBoolean fun b other => nomatch other

theorem explained_integer (name : String) (lo hi : Int) : (integer name lo hi).Explained := by
  intro v fails
  cases v with
  | integer n =>
    refine .outOfRange ?_
    by_contra inside
    exact nomatch (if_pos (by omega)).symm.trans fails
  | _ => exact .notInteger fun n other => nomatch other

theorem explained_choice [BEq α] (choices : List (String × α)) : (choice choices).Explained :=
  fun v fails => .noChoice ((decode_choice_eq_none_iff choices v).1 fails)

theorem Explained.map {f : Format α} (h : f.Explained) (forth : α → β) (back : β → α) :
    (f.map forth back).Explained :=
  fun v fails => .map (h v (Option.map_eq_none_iff.1 fails))

theorem explained_uint32 : uint32.Explained := (explained_integer _ _ _).map _ _

theorem explained_int32 : int32.Explained := (explained_integer _ _ _).map _ _

theorem explained_int64 : int64.Explained := (explained_integer _ _ _).map _ _

theorem Explained.optional {f : Format α} (h : f.Explained) : f.optional.Explained := by
  intro v fails
  cases v with
  | null => exact nomatch fails
  | _ => exact .optional (fun other => nomatch other) (h _ (Option.map_eq_none_iff.1 fails))

theorem Explained.list {f : Format α} (h : f.Explained) : f.list.Explained := by
  intro v fails
  cases v with
  | list items =>
    obtain ⟨v, mem, fails⟩ := (decodeAll_eq_none_iff f items).1 fails
    exact .item mem (h v fails)
  | _ => exact .notList fun items other => nomatch other

theorem explained_record {αs : List Type} {fields : Fields αs} (name : String)
    (distinct : fields.names.Nodup) (h : fields.Explained) : (record name fields).Explained := by
  intro v fails
  cases v with
  | object members =>
    rw [decode_record_object] at fails
    obtain ⟨α, field, n, stands, fails⟩ := Fields.exists_at_of_valuesOf distinct fails
    rcases (field.valueOf_eq_none_iff _).1 fails with ⟨none, needed⟩ | twice | ⟨v, only, fails⟩
    · exact .missing stands needed ((named_eq_nil_iff _ _).1 none)
    · rw [length_named] at twice
      exact .repeated stands twice
    · have mem : v ∈ named field.name members := only ▸ List.mem_singleton_self v
      exact .member stands ((mem_named_iff _ _ _).1 mem) (h.of_at stands v fails)
  | list items =>
    rcases Fields.exists_at_of_decodeItems distinct fails with many | ⟨α, field, n, stands, fails⟩
    · exact .tooMany many
    · cases found : items[n]? with
      | none =>
        rw [found] at fails
        exact .tooFew stands fails (List.getElem?_eq_none_iff.1 found)
      | some v =>
        rw [found] at fails
        exact .element stands found (h.of_at stands v fails)
  | _ => exact .notRecord (fun members other => nomatch other) fun items other => nomatch other

theorem Explained.decode_eq_none_iff {f : Format α} (h : f.Explained) (v : Json) :
    f.decode v = none ↔ Broken f v := ⟨h v, Broken.decode_eq_none⟩

end Format

end FlagHost.Json

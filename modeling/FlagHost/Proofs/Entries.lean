import FlagHost.Configuration

/-!
# Which entries count

What the tables of a configuration hold of the documents that are listed for them. `Indexes` says
it for one table: under a key stands the last document of the list that has a value with this key,
and nothing else stands in the table. Main statements: a configuration indexes both of its lists,
and documents that no key is looked up for can come and go anywhere in them.
-/

namespace FlagHost

/-- The lists are the same but for items that are put aside, anywhere in either of them. -/
inductive SameBut {α : Type} (aside : α → Prop) : List α → List α → Prop where
  | nil : SameBut aside [] []
  | both (a : α) {l l' : List α} (same : SameBut aside l l') : SameBut aside (a :: l) (a :: l')
  | left {a : α} {l l' : List α} (leaves : aside a) (same : SameBut aside l l') :
      SameBut aside (a :: l) l'
  | right {a : α} {l l' : List α} (leaves : aside a) (same : SameBut aside l l') :
      SameBut aside l (a :: l')

theorem SameBut.refl {α : Type} {aside : α → Prop} (l : List α) : SameBut aside l l := by
  induction l with
  | nil => exact .nil
  | cons a l ih => exact .both a ih

/-- What passes over the items that are put aside sees the same in both lists. -/
theorem SameBut.filterMap_eq {α β : Type} {aside : α → Prop} {l l' : List α}
    (h : SameBut aside l l') {f : α → Option β} (passes : ∀ a, aside a → f a = none) :
    l.filterMap f = l'.filterMap f := by
  induction h with
  | nil => rfl
  | both a _ ih => rw [List.filterMap_cons, List.filterMap_cons, ih]
  | left leaves _ ih => rw [List.filterMap_cons_none (passes _ leaves), ih]
  | right leaves _ ih => rw [List.filterMap_cons_none (passes _ leaves), ih]

namespace Configuration

open Json (Format)

/-- The table of those documents that have a value, by the keys of the values. -/
def index {α : Type} (format : Format α) (keyOf : α → String) (entries : List Json) : Table α :=
  Table.ofList ((decodable format entries).map fun a => (keyOf a, a))

/-- The value of a document, if it has one and the key is its own. -/
def valueAt {α : Type} (format : Format α) (keyOf : α → String) (key : String) (v : Json) :
    Option α :=
  (format.decode v).filter (keyOf · = key)

/-- The last document of the list that has a value with the key has this value. -/
def LastEntry {α : Type} (format : Format α) (keyOf : α → String) (entries : List Json)
    (key : String) (a : α) : Prop :=
  ∃ before v after, entries = before ++ v :: after ∧ format.decode v = some a ∧ keyOf a = key ∧
    ∀ w ∈ after, ∀ b, format.decode w = some b → keyOf b ≠ key

/-- The table has for each key the last value that is listed with it. -/
structure Indexes {α : Type} (format : Format α) (keyOf : α → String) (entries : List Json)
    (table : Table α) : Prop where
  find?_eq_some_iff : ∀ key a,
    table.find? key = some a ↔ LastEntry format keyOf entries key a
  isSome_find?_iff : ∀ key, (table.find? key).isSome ↔
    ∃ v ∈ entries, ∃ a, format.decode v = some a ∧ keyOf a = key
  /-- Each key stands in the table once. -/
  sorted : table.Sorted
  /-- An entry is found under its key, which is that of its value. -/
  mem_iff : ∀ key a, (key, a) ∈ table ↔ keyOf a = key ∧ table.find? key = some a

variable {α : Type} {format : Format α} {keyOf : α → String} {entries : List Json}

theorem valueAt_eq_some_iff (key : String) (v : Json) (a : α) :
    valueAt format keyOf key v = some a ↔ format.decode v = some a ∧ keyOf a = key := by
  simp [valueAt]

theorem valueAt_eq_none_iff (key : String) (v : Json) :
    valueAt format keyOf key v = none ↔ ∀ a, format.decode v = some a → keyOf a ≠ key := by
  simp [valueAt]

theorem find?_index (key : String) :
    (index format keyOf entries).find? key =
      (entries.filterMap (valueAt format keyOf key)).getLast? := by
  rw [index, Table.find?_ofList, List.getLast?_filterMap, ← List.map_reverse, decodable,
    ← List.filterMap_reverse]
  generalize entries.reverse = latest
  induction latest with
  | nil => rfl
  | cons v latest ih =>
    cases decoded : format.decode v with
    | none =>
      have passes : valueAt format keyOf key v = none := by simp [valueAt, decoded]
      rw [List.filterMap_cons_none decoded, List.findSome?_cons, passes, ih]
    | some a =>
      rw [List.filterMap_cons_some decoded, List.map_cons, List.lookup_cons, List.findSome?_cons,
        ih]
      by_cases own : keyOf a = key
      · rw [(valueAt_eq_some_iff key v a).2 ⟨decoded, own⟩]
        simp [own]
      · have passes : valueAt format keyOf key v = none := by simp [valueAt, decoded, own]
        rw [passes, beq_eq_false_iff_ne.2 (Ne.symm own)]

theorem find?_index_eq_some_iff (key : String) (a : α) :
    (index format keyOf entries).find? key = some a ↔ LastEntry format keyOf entries key a := by
  rw [find?_index, List.getLast?_filterMap, List.findSome?_eq_some_iff]
  constructor
  · rintro ⟨after, v, before, reversed, found, none_later⟩
    obtain ⟨decoded, own⟩ := (valueAt_eq_some_iff key v a).1 found
    refine ⟨before.reverse, v, after.reverse, ?_, decoded, own, fun w mem => ?_⟩
    · rw [← entries.reverse_reverse, reversed]
      simp
    · exact (valueAt_eq_none_iff key w).1 (none_later w (List.mem_reverse.1 mem))
  · rintro ⟨before, v, after, rfl, decoded, own, none_later⟩
    refine ⟨after.reverse, v, before.reverse, by simp, ?_, fun w mem => ?_⟩
    · exact (valueAt_eq_some_iff key v a).2 ⟨decoded, own⟩
    · exact (valueAt_eq_none_iff key w).2 (none_later w (List.mem_reverse.1 mem))

theorem LastEntry.key_eq {key : String} {a : α} (h : LastEntry format keyOf entries key a) :
    keyOf a = key := by
  obtain ⟨_, _, _, _, _, own, _⟩ := h
  exact own

theorem indexes_index (format : Format α) (keyOf : α → String) (entries : List Json) :
    Indexes format keyOf entries (index format keyOf entries) := by
  have sorted : (index format keyOf entries).Sorted := Table.sorted_ofList _
  constructor
  case find?_eq_some_iff => exact find?_index_eq_some_iff
  case isSome_find?_iff =>
    intro key
    rw [find?_index, List.getLast?_filterMap, List.findSome?_isSome_iff]
    constructor
    · rintro ⟨v, mem, has⟩
      obtain ⟨a, found⟩ := Option.isSome_iff_exists.1 has
      exact ⟨v, List.mem_reverse.1 mem, a, (valueAt_eq_some_iff key v a).1 found⟩
    · rintro ⟨v, mem, a, found⟩
      have found := (valueAt_eq_some_iff key v a).2 found
      exact ⟨v, List.mem_reverse.2 mem, Option.isSome_of_eq_some found⟩
  case sorted => exact sorted
  case mem_iff =>
    intro key a
    rw [sorted.mem_iff]
    exact ⟨fun found => ⟨((find?_index_eq_some_iff key a).1 found).key_eq, found⟩, And.right⟩

theorem find?_index_congr {aside : Json → Prop} {entries' : List Json} {key : String}
    (h : SameBut aside entries entries')
    (other : ∀ v, aside v → ∀ a, format.decode v = some a → keyOf a ≠ key) :
    (index format keyOf entries).find? key = (index format keyOf entries').find? key := by
  rw [find?_index, find?_index,
    h.filterMap_eq fun v leaves => (valueAt_eq_none_iff key v).2 (other v leaves)]

theorem index_congr {aside : Json → Prop} {entries' : List Json}
    (h : SameBut aside entries entries') (broken : ∀ v, aside v → format.decode v = none) :
    index format keyOf entries = index format keyOf entries' := by
  rw [index, index, decodable, decodable, h.filterMap_eq broken]

theorem flags_ofEntries (flags segments : List Json) :
    (ofEntries flags segments).flags = index Flag.format Flag.key flags := rfl

theorem segments_ofEntries (flags segments : List Json) :
    (ofEntries flags segments).segments = index Segment.format Segment.identifier segments := rfl

end Configuration

end FlagHost

import FlagHost.Proofs.Printing

/-!
# Canonical documents

The canonical form of a document has each name of an object once, with its last value. Main
statements: it means the same as the document, it is its own canonical form, and it is no deeper and
has no other numbers than the document. So a compact text holds the value of the document that it
was made for, and it is made again for the document that it holds.
-/

namespace FlagHost.Json

/-- A property of all documents, from the items of lists and the values of objects up. -/
theorem induct {P : Json → Prop} (null : P .null) (boolean : ∀ b, P (.boolean b))
    (integer : ∀ n, P (.integer n)) (float : ∀ x, P (.float x)) (text : ∀ s, P (.text s))
    (list : ∀ items : List Json, (∀ v ∈ items, P v) → P (.list items))
    (object : ∀ members : List (String × Json), (∀ member ∈ members, P member.2) →
      P (.object members)) (v : Json) : P v := by
  refine @Json.rec P (fun items => ∀ v ∈ items, P v) (fun members => ∀ member ∈ members, P member.2)
    (fun member => P member.2) null boolean integer float text list object ?_ ?_ ?_ ?_ ?_ v
  · exact fun v mem => nomatch mem
  · exact fun v vs first rest => List.forall_mem_cons.2 ⟨first, rest⟩
  · exact fun member mem => nomatch mem
  · exact fun member members first rest => List.forall_mem_cons.2 ⟨first, rest⟩
  · exact fun k v value => value

/-! ## The canonical form -/

/-- The members with canonical values. -/
def canonicalMembers (members : List (String × Json)) : List (String × Json) :=
  members.map fun member => (member.1, member.2.canonical)

theorem canonical_list (items : List Json) :
    canonical (.list items) = .list (items.map canonical) := by
  have each : canonicalItems items = items.map canonical := by
    induction items with
    | nil => rfl
    | cons v vs ih => rw [canonicalItems, ih, List.map_cons]
  rw [canonical, each]

theorem canonical_object (members : List (String × Json)) :
    canonical (.object members) = .object (Table.ofList (canonicalMembers members)) := by
  have onto (done : List (String × Json)) :
      canonicalOnto done members = (canonicalMembers members).foldl
        (fun table entry => Table.put entry.1 entry.2 table) done := by
    induction members generalizing done with
    | nil => rfl
    | cons member members ih =>
      obtain ⟨k, v⟩ := member
      rw [canonicalOnto, ih]
      rfl
  rw [canonical, onto []]
  rfl

theorem canonical_of_mem {members : List (String × Json)} {entry : String × Json}
    (mem : entry ∈ Table.ofList (canonicalMembers members)) :
    ∃ member ∈ members, entry.2 = member.2.canonical := by
  obtain ⟨member, member_mem, rfl⟩ := List.mem_map.1 (Table.mem_of_mem_ofList mem)
  exact ⟨member, member_mem, rfl⟩

/-- A property that lists have with their items, and objects with their values. -/
theorem canonical_of_all {P : Json → Prop} (list : ∀ items, P (.list items) ↔ ∀ v ∈ items, P v)
    (object : ∀ members : List (String × Json),
      P (.object members) ↔ ∀ member ∈ members, P member.2) {v : Json} (h : P v) :
    P v.canonical := by
  induction v using induct with
  | list items ih =>
    rw [canonical_list, list]
    intro v mem
    obtain ⟨item, item_mem, rfl⟩ := List.mem_map.1 mem
    exact ih item item_mem ((list items).1 h item item_mem)
  | object members ih =>
    rw [canonical_object, object]
    intro entry mem
    obtain ⟨member, mem, same⟩ := canonical_of_mem mem
    exact same ▸ ih member mem ((object members).1 h member mem)
  | _ => exact h

theorem Integral.canonical {v : Json} (h : Integral v) : Integral v.canonical := by
  refine canonical_of_all (fun items => ?_) (fun members => ?_) h
  · exact ⟨fun (.list all) => all, .list⟩
  · exact ⟨fun (.object all) => all, .object⟩

theorem Within.canonical {levels : Nat} {v : Json} (h : Within levels v) :
    Within levels v.canonical := by
  induction h with
  | null => exact .null
  | boolean b => exact .boolean b
  | integer n => exact .integer n
  | float x => exact .float x
  | text s => exact .text s
  | @list levels items _ ih =>
    rw [canonical_list]
    refine .list fun v mem => ?_
    obtain ⟨item, item_mem, rfl⟩ := List.mem_map.1 mem
    exact ih item item_mem
  | @object levels members _ ih =>
    rw [canonical_object]
    refine .object fun entry mem => ?_
    obtain ⟨member, mem, same⟩ := canonical_of_mem mem
    exact same ▸ ih member mem

/-- The canonical form is its own canonical form. -/
theorem canonical_canonical (v : Json) : v.canonical.canonical = v.canonical := by
  induction v using induct with
  | list items ih =>
    rw [canonical_list, canonical_list, List.map_map]
    exact congrArg Json.list (List.map_congr_left ih)
  | object members ih =>
    have fixed : canonicalMembers (Table.ofList (canonicalMembers members)) =
        Table.ofList (canonicalMembers members) := by
      refine (List.map_congr_left fun entry mem => ?_).trans (List.map_id _)
      obtain ⟨member, mem, same⟩ := canonical_of_mem mem
      rw [same, ih member mem, ← same]
      rfl
    rw [canonical_object, canonical_object, fixed, Table.ofList_of_sorted (Table.sorted_ofList _)]
  | _ => rfl

/-! ## Sameness -/

/-- Two documents mean the same value: objects agree in the last value of each name, in any
order. -/
inductive SameValue : Json → Json → Prop where
  | null : SameValue .null .null
  | boolean (b : Bool) : SameValue (.boolean b) (.boolean b)
  | integer (n : Int) : SameValue (.integer n) (.integer n)
  | float (x : Float) : SameValue (.float x) (.float x)
  | text (s : String) : SameValue (.text s) (.text s)
  | list {items items' : List Json} (each : List.Forall₂ SameValue items items') :
      SameValue (.list items) (.list items')
  | object {members members' : List (String × Json)}
      (each : ∀ name, Option.Rel SameValue (lookup name members) (lookup name members')) :
      SameValue (.object members) (.object members')

theorem lookup_eq_lookup_reverse (name : String) (members : List (String × Json)) :
    lookup name members = members.reverse.lookup name := by
  induction members with
  | nil => rfl
  | cons member members ih =>
    obtain ⟨k, v⟩ := member
    rw [lookup, ih, List.reverse_cons, List.lookup_append]
    by_cases own : k = name
    · subst own
      cases members.reverse.lookup k <;> simp
    · have other : (name == k) = false := beq_eq_false_iff_ne.2 (Ne.symm own)
      cases members.reverse.lookup name <;> simp [own, List.lookup_cons, other]

theorem lookup_ofList (name : String) (members : List (String × Json)) :
    lookup name (Table.ofList members) = lookup name members := by
  have sorted := Table.sorted_ofList members
  rw [lookup_eq_lookup_reverse, lookup_eq_lookup_reverse, ← Table.find?_ofList,
    ← Table.find?_ofList, Table.ofList_of_sorted sorted]

theorem lookup_canonicalMembers (name : String) (members : List (String × Json)) :
    lookup name (canonicalMembers members) = (lookup name members).map canonical := by
  induction members with
  | nil => rfl
  | cons member members ih =>
    obtain ⟨k, v⟩ := member
    change lookup name ((k, v.canonical) :: canonicalMembers members) = _
    rw [lookup, lookup, ih]
    cases lookup name members with
    | some w => rfl
    | none => by_cases own : k = name <;> simp [own]

theorem mem_of_lookup {name : String} {members : List (String × Json)} {v : Json}
    (found : lookup name members = some v) : (name, v) ∈ members := by
  rw [lookup_eq_lookup_reverse] at found
  obtain ⟨before, after, split, -⟩ := List.lookup_eq_some_iff.1 found
  rw [← List.mem_reverse, split]
  exact List.mem_append_right before List.mem_cons_self

/-- The canonical form means the same value. -/
theorem sameValue_canonical (v : Json) : SameValue v.canonical v := by
  induction v using induct with
  | null => exact .null
  | boolean b => exact .boolean b
  | integer n => exact .integer n
  | float x => exact .float x
  | text s => exact .text s
  | list items ih =>
    rw [canonical_list]
    refine .list ?_
    induction items with
    | nil => exact .nil
    | cons v vs rest_ih =>
      exact .cons (ih v List.mem_cons_self) (rest_ih fun v mem => ih v (List.mem_cons_of_mem _ mem))
  | object members ih =>
    rw [canonical_object]
    refine .object fun name => ?_
    rw [lookup_ofList, lookup_canonicalMembers]
    cases found : lookup name members with
    | none => exact .none
    | some v => exact .some (ih (name, v) (mem_of_lookup found))

/-! ## Compact texts -/

/-- What is known of the compact text of a document that was read from a text. -/
theorem Integral.ofText_compact {t : String} {v : Json} (h : Integral v) (read : ofText t = .ok v) :
    ofText v.compact = .ok v.canonical :=
  h.canonical.ofText_toText (within_of_ofText read).canonical

theorem compact_canonical (v : Json) : v.canonical.compact = v.compact :=
  congrArg toText (canonical_canonical v)

end FlagHost.Json

/-!
# Tables

A table maps texts to values. It is kept as a list of entries in the order of their keys, so that
two tables with the same entries are equal. Main statement: looking up after a `put` finds the new
value at its key and the old one everywhere else. A table made of a list finds the last value that
was listed for a key, and has no other entries than those it finds.
-/

namespace FlagHost

/-- Entries in the order of their keys. -/
abbrev Table (α : Type) := List (String × α)

namespace Table

variable {α : Type}

/-- Enters a value, in the place of one that the key had. -/
def put (key : String) (value : α) : Table α → Table α
  | [] => [(key, value)]
  | (k, v) :: rest =>
    if key = k then (key, value) :: rest
    else if key < k then (key, value) :: (k, v) :: rest
    else (k, v) :: put key value rest

def find? (key : String) : Table α → Option α
  | [] => none
  | (k, v) :: rest => if k = key then some v else find? key rest

/-- The table that has the last of the values listed for each key. -/
def ofList (entries : List (String × α)) : Table α :=
  entries.foldl (fun table entry => table.put entry.1 entry.2) []

def keys (table : Table α) : List String := table.map (·.1)

def mapValues {β : Type} (f : α → β) (table : Table α) : Table β :=
  table.map fun entry => (entry.1, f entry.2)

@[simp] theorem find?_nil (key : String) : find? key ([] : Table α) = none := rfl

theorem find?_cons (key k : String) (v : α) (rest : Table α) :
    find? key ((k, v) :: rest) = if k = key then some v else find? key rest := rfl

theorem find?_mapValues {β : Type} (f : α → β) (key : String) (table : Table α) :
    find? key (table.mapValues f) = (find? key table).map f := by
  induction table with
  | nil => rfl
  | cons entry rest ih =>
    obtain ⟨k, v⟩ := entry
    by_cases h : k = key
    · simp [mapValues, find?, h]
    · simpa [mapValues, find?, h] using ih

theorem find?_put (key k : String) (value : α) (table : Table α) :
    find? k (table.put key value) = if key = k then some value else find? k table := by
  induction table with
  | nil => rfl
  | cons entry rest ih =>
    obtain ⟨l, w⟩ := entry
    by_cases h : key = l
    · subst h
      by_cases hk : key = k <;> simp [put, find?, hk]
    · by_cases hlt : key < l
      · simp [put, h, hlt, find?]
      · by_cases hk : l = k
        · subst hk
          simp [put, h, hlt, find?]
        · simp [put, h, hlt, find?, hk, ih]

theorem isSome_find?_iff (key : String) (table : Table α) :
    (find? key table).isSome ↔ key ∈ keys table := by
  induction table with
  | nil => simp [keys]
  | cons entry rest ih =>
    obtain ⟨k, v⟩ := entry
    rw [find?_cons]
    by_cases h : k = key
    · simp [h, keys]
    · simp [h, ih, keys, Ne.symm h]

theorem find?_ofList (key : String) (entries : List (String × α)) :
    find? key (ofList entries) = entries.reverse.lookup key := by
  have onto (table : Table α) :
      find? key (entries.foldl (fun table entry => table.put entry.1 entry.2) table) =
        (entries.reverse.lookup key).or (find? key table) := by
    induction entries generalizing table with
    | nil => rfl
    | cons entry entries ih =>
      obtain ⟨k, v⟩ := entry
      rw [List.foldl_cons, ih, find?_put, List.reverse_cons, List.lookup_append, Option.or_assoc]
      by_cases h : k = key
      · simp [h]
      · simp [List.lookup_cons, h, beq_eq_false_iff_ne.2 (Ne.symm h)]
  rw [ofList, onto, find?_nil, Option.or_none]

theorem find?_ofList_of_nodup {entries : List (String × α)} (distinct : (keys entries).Nodup)
    {key : String} {value : α} (mem : (key, value) ∈ entries) :
    find? key (ofList entries) = some value := by
  obtain ⟨before, behind, rfl⟩ := List.append_of_mem mem
  have absent : key ∉ keys behind := by
    rw [keys, List.map_append, List.nodup_append] at distinct
    exact (List.nodup_cons.1 distinct.2.1).1
  rw [find?_ofList, List.lookup_eq_some_iff]
  refine ⟨behind.reverse, before.reverse, by simp, fun entry mem => ?_⟩
  have listed : entry.1 ∈ keys behind := List.mem_map_of_mem (List.mem_reverse.1 mem)
  rw [bne_iff_ne]
  rintro rfl
  exact absent listed

/-- The keys come in their order, and each comes once. -/
def Sorted (table : Table α) : Prop := table.Pairwise fun a b => a.1 < b.1

theorem mem_put {key : String} {value : α} {table : Table α} {entry : String × α}
    (h : entry ∈ table.put key value) : entry = (key, value) ∨ entry ∈ table := by
  induction table with
  | nil => exact .inl (List.mem_singleton.1 h)
  | cons first rest ih =>
    obtain ⟨k, v⟩ := first
    unfold put at h
    split at h
    · exact (List.mem_cons.1 h).imp_right (List.mem_cons_of_mem _)
    · split at h
      · exact List.mem_cons.1 h
      · rcases List.mem_cons.1 h with rfl | h
        · exact .inr List.mem_cons_self
        · exact (ih h).imp_right (List.mem_cons_of_mem _)

theorem Sorted.put {table : Table α} (h : table.Sorted) (key : String) (value : α) :
    Sorted (table.put key value) := by
  induction table with
  | nil => exact List.pairwise_singleton _ _
  | cons first rest ih =>
    obtain ⟨k, v⟩ := first
    obtain ⟨least, sorted⟩ := List.pairwise_cons.1 h
    unfold Table.put
    split
    · next same => exact List.pairwise_cons.2 ⟨same ▸ least, sorted⟩
    · next other =>
      split
      · next lt =>
        refine List.pairwise_cons.2 ⟨fun entry mem => ?_, h⟩
        rcases List.mem_cons.1 mem with rfl | mem
        · exact lt
        · exact String.lt_trans lt (least entry mem)
      · next le =>
        refine List.pairwise_cons.2 ⟨fun entry mem => ?_, ih sorted⟩
        rcases mem_put mem with rfl | mem
        · exact Std.lt_of_le_of_ne (String.not_lt.1 le) (Ne.symm other)
        · exact least entry mem

theorem sorted_ofList (entries : List (String × α)) : Sorted (ofList entries) := by
  have onto (table : Table α) (h : table.Sorted) :
      Sorted (entries.foldl (fun table entry => table.put entry.1 entry.2) table) := by
    induction entries generalizing table with
    | nil => exact h
    | cons entry entries ih => exact ih _ (h.put entry.1 entry.2)
  exact onto [] .nil

/-- A table has no entries but those that are found. -/
theorem Sorted.mem_iff {table : Table α} (h : table.Sorted) (key : String) (value : α) :
    (key, value) ∈ table ↔ find? key table = some value := by
  induction table with
  | nil => simp
  | cons first rest ih =>
    obtain ⟨k, v⟩ := first
    obtain ⟨least, sorted⟩ := List.pairwise_cons.1 h
    rw [List.mem_cons, ih sorted, find?_cons]
    by_cases same : k = key
    · subst same
      have absent : find? k rest ≠ some value := fun found =>
        String.lt_irrefl k (least _ ((ih sorted).2 found))
      simp [absent, eq_comm]
    · simp [same, Ne.symm same]

theorem put_of_forall_lt {key : String} {table : Table α} (last : ∀ entry ∈ table, entry.1 < key)
    (value : α) : table.put key value = table ++ [(key, value)] := by
  induction table with
  | nil => rfl
  | cons first rest ih =>
    obtain ⟨k, v⟩ := first
    have before : k < key := last _ List.mem_cons_self
    have other : key ≠ k := fun same => String.lt_irrefl k (same ▸ before)
    have behind : ¬ key < k := fun lt => String.lt_irrefl k (String.lt_trans before lt)
    rw [put, if_neg other, if_neg behind,
      ih fun entry mem => last entry (List.mem_cons_of_mem _ mem)]
    rfl

/-- Entries that are in order already are the table of themselves. -/
theorem ofList_of_sorted {table : Table α} (h : table.Sorted) : ofList table = table := by
  have onto (done rest : Table α) (h : Sorted (done ++ rest)) :
      rest.foldl (fun table entry => table.put entry.1 entry.2) done = done ++ rest := by
    induction rest generalizing done with
    | nil => exact (List.append_nil done).symm
    | cons entry rest ih =>
      have last : ∀ e ∈ done, e.1 < entry.1 := fun e mem =>
        (List.pairwise_append.1 h).2.2 e mem entry List.mem_cons_self
      have sorted : Sorted ((done ++ [entry]) ++ rest) := by simpa using h
      rw [List.foldl_cons, put_of_forall_lt last, ih _ sorted]
      simp
  exact onto [] table h

theorem mem_of_mem_ofList {entries : List (String × α)} {entry : String × α}
    (mem : entry ∈ ofList entries) : entry ∈ entries := by
  have onto (rest : List (String × α)) (done : Table α)
      (mem : entry ∈ rest.foldl (fun table entry => table.put entry.1 entry.2) done) :
      entry ∈ done ∨ entry ∈ rest := by
    induction rest generalizing done with
    | nil => exact .inl mem
    | cons first rest ih =>
      rcases ih _ mem with mem | mem
      · exact (mem_put mem).symm.imp_right fun same => List.mem_cons.2 (.inl same)
      · exact .inr (List.mem_cons_of_mem _ mem)
  exact (onto entries [] mem).resolve_left List.not_mem_nil

end Table

end FlagHost

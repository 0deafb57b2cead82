import FlagHost.Proofs.Writing

/-!
# Formats read what is printed

A format decodes documents that were read before, and reads values straight from bytes. Main
statement: both come to the same on what is printed for documents without doubles, for all formats
that are put together here. So what is known of decoding a document holds for its bytes as well.
-/

namespace FlagHost.Json

/-! ## Formats -/

/-- What is printed for a document is read as the document is decoded. -/
def Format.Faithful {α : Type} (f : Format α) : Prop :=
  ∀ v, Integral v → ∀ bounds : Bounds, Within bounds.levels v →
    (Utf8.encode v.write).length ≤ bounds.items → f.ReadsAs bounds (Utf8.encode v.write) v

namespace Format

variable {α β : Type}

/-- Printed bytes hold the value of the document. -/
theorem Faithful.ofBytes_toBytes {f : Format α} (h : f.Faithful) {v : Json} (integral : Integral v)
    (within : Within nestingLimit v) {a : α} (decoded : f.decode v = some a) :
    f.ofBytes v.toBytes = .ok a := by
  have read := h v integral ⟨nestingLimit, v.toBytes.length + 1⟩ within (Nat.le_succ _) a decoded
    [] [] Blank.nil Ended.nil
  rw [List.nil_append, List.append_nil] at read
  exact mapError_eq_ok_iff.2 ((readAll_eq_ok_iff _ _ _).2 ⟨[], read, rfl⟩)

theorem faithful_document : Format.document.Faithful := by
  intro v integral bounds within short a decoded blanks rest blank ended
  obtain rfl := Option.some.inj decoded
  have read := integral.readValue_write within short rest ended
  obtain ⟨b, s, bytes, no_blank, -⟩ := integral.first_byte
  rw [bytes, List.cons_append] at read ⊢
  rw [Format.document]
  dsimp only
  unfold readValue at read ⊢
  rwa [blank.skipBlanks_cons no_blank, ← skipBlanks_of_first no_blank]

theorem faithful_text : Format.text.Faithful := by
  intro v _ bounds _ _
  cases v with
  | text s =>
    obtain ⟨bytes, same, spells⟩ := exists_spells_writeText s
    rw [write, same]
    exact readsAs_text spells bounds
  | _ => exact fun a decoded => by cases decoded

theorem faithful_boolean : Format.boolean.Faithful := by
  intro v _ bounds _ _ a decoded blanks rest blank _
  cases v with
  | boolean b =>
    obtain rfl := Option.some.inj decoded
    cases b
    · have bytes : Utf8.encode (write (.boolean false)) = [102, 97, 108, 115, 101] := rfl
      rw [bytes, List.cons_append, Format.boolean]
      dsimp only
      rw [blank.skipBlanks_cons rfl]
      rfl
    · have bytes : Utf8.encode (write (.boolean true)) = [116, 114, 117, 101] := rfl
      rw [bytes, List.cons_append, Format.boolean]
      dsimp only
      rw [blank.skipBlanks_cons rfl]
      rfl
  | _ => exact nomatch decoded

theorem faithful_integer (name : String) (lo hi : Int) : (integer name lo hi).Faithful := by
  intro v integral bounds _ _ a decoded blanks rest blank ended
  cases integral with
  | @integer n least greatest =>
    have inside : lo ≤ n ∧ n ≤ hi := by
      by_contra outside
      exact nomatch (if_neg outside).symm.trans decoded
    obtain rfl : n = a := Option.some.inj ((if_pos inside).symm.trans decoded)
    obtain ⟨negative, b, s, bytes, digit, number⟩ := exists_number_write least greatest
    have number := number rest ended
    rw [bytes, integer]
    cases negative with
    | true =>
      simp only [if_true, List.cons_append] at number ⊢
      rw [blank.skipBlanks_cons rfl]
      simp [number, inside]
    | false =>
      have no_sign : b ≠ 45 := by
        rintro rfl
        exact nomatch digit
      simp only [Bool.false_eq_true, if_false, List.nil_append, List.cons_append] at number ⊢
      rw [blank.skipBlanks_cons (isBlankByte_of_isDigit digit)]
      simp [number, inside, no_sign, digit]
  | _ => exact nomatch decoded

theorem Faithful.map {f : Format α} (h : f.Faithful) (forth : α → β) (back : β → α) :
    (f.map forth back).Faithful := by
  intro v integral bounds within short b decoded blanks rest blank ended
  obtain ⟨a, found, rfl⟩ := Option.map_eq_some_iff.1 decoded
  exact congrArg (Except.map _) (h v integral bounds within short a found blanks rest blank ended)

theorem Faithful.optional {f : Format α} (h : f.Faithful) : f.optional.Faithful := by
  intro v integral bounds within short
  by_cases null : v = .null
  · subst null
    exact readsAs_optional_null f bounds
  · obtain ⟨b, s, bytes, no_blank, -, other⟩ := integral.first_byte
    have read := h v integral bounds within short
    rw [bytes] at read ⊢
    exact read.optional no_blank (other null) null

theorem decodeAll_eq_some_iff (f : Format α) (vs : List Json) (as : List α) :
    f.decodeAll vs = some as ↔ List.Forall₂ (fun v a => f.decode v = some a) vs as := by
  induction vs generalizing as with
  | nil => simp [decodeAll, eq_comm]
  | cons v vs ih =>
    rw [List.forall₂_cons_left_iff, decodeAll]
    cases f.decode v with
    | none => simp
    | some a =>
      have split : (f.decodeAll vs).bind (fun as => some (a :: as)) = some as ↔
          ∃ behind, f.decodeAll vs = some behind ∧ a :: behind = as := by
        simp [Option.bind_eq_some_iff]
      refine split.trans ⟨?_, ?_⟩
      · rintro ⟨behind, decoded, rfl⟩
        exact ⟨a, behind, rfl, (ih behind).1 decoded, rfl⟩
      · rintro ⟨b, behind, same, each, rfl⟩
        exact ⟨behind, (ih behind).2 each, by rw [Option.some.inj same]⟩

theorem ReadsAs.givesBack {f : Format α} {bounds : Bounds} {v : Json} {a : α}
    (h : f.ReadsAs bounds (Utf8.encode v.write) v) (decoded : f.decode v = some a) :
    GivesBack (f.read bounds) v a :=
  fun rest ended => h a decoded [] rest Blank.nil ended

theorem Faithful.list {f : Format α} (h : f.Faithful) : f.list.Faithful := by
  intro v integral bounds within short as decoded blanks rest blank _
  obtain ⟨levels, items⟩ := bounds
  cases integral with
  | @list vs all =>
    cases within with
    | @list levels _ within =>
      obtain ⟨few, item_short⟩ := length_write_list vs
      have reads (v : Json) (mem : v ∈ vs) : f.ReadsAs ⟨levels, items⟩ (Utf8.encode v.write) v :=
        h v (all v mem) ⟨levels, items⟩ (within v mem) (Nat.le_trans (item_short v mem) short)
      have each := (decodeAll_eq_some_iff f vs as).1 decoded
      have back : List.Forall₂ (GivesBack (f.read ⟨levels, items⟩)) vs as :=
        ((List.forall₂_and_left vs as).2 ⟨reads, each⟩).imp fun v a item => item.1.givesBack item.2
      obtain ⟨s, bytes, read⟩ := exists_readItems_write all back (Nat.lt_of_lt_of_le few short)
      rw [bytes, List.cons_append, Format.list]
      dsimp only
      rw [blank.skipBlanks_cons rfl]
      dsimp only at read ⊢
      rw [if_pos rfl, read]
      rfl
  | _ => exact nomatch decoded

/-- The name of a choice is read, and the choice is looked up. -/
theorem faithful_choice [BEq α] (choices : List (String × α)) : (choice choices).Faithful := by
  intro v integral bounds within short a decoded blanks rest blank _
  obtain ⟨levels, items⟩ := bounds
  clear integral short
  -- Both ways to write a choice begin with its name.
  have named {k : String} (found : choices.lookup k = some a) {s : Bytes}
      (spells : Spells k.toList s) (rest : Bytes) :
      Format.text.read ⟨levels, items⟩ (34 :: (s ++ 34 :: rest)) = .ok (k, rest) := by
    have read := readText_of_spells spells rest
    rw [String.ofList_toList] at read
    exact read
  unfold choice at decoded
  dsimp only at decoded
  split at decoded
  · next k =>
    obtain ⟨s, bytes, spells⟩ := exists_spells_writeText k
    have read := named decoded spells rest
    have whole : Utf8.encode (write (.text k)) ++ rest = 34 :: (s ++ 34 :: rest) := by
      rw [write, bytes]
      simp
    rw [whole, choice]
    dsimp only
    rw [blank.skipBlanks_cons rfl]
    simp only [read, ok_bind, decoded]
    rfl
  · next k =>
    cases within with
    | @object levels =>
      obtain ⟨s, bytes, spells⟩ := exists_spells_writeText k
      have read := named decoded spells (58 :: 110 :: 117 :: 108 :: 108 :: 125 :: rest)
      have whole : Utf8.encode (write (.object [(k, .null)])) ++ rest =
          123 :: 34 :: (s ++ 34 :: 58 :: 110 :: 117 :: 108 :: 108 :: 125 :: rest) := by
        rw [encode_write_object, bytes]
        simp [write, writeMembers]
        rfl
      rw [whole, choice]
      dsimp only
      rw [blank.skipBlanks_cons rfl]
      simp only [read, ok_bind, decoded]
      rfl
  · cases decoded

end Format

/-! ## Records -/

/-- The document that was printed, up to so many levels. -/
def printed (levels : Nat) (bytes : Bytes) : Json :=
  match readValue bytes.length levels bytes with
  | .ok (v, _) => v
  | .error _ => .null

theorem Integral.printed_write {v : Json} (h : Integral v) {levels : Nat}
    (within : Within levels v) : printed levels (Utf8.encode v.write) = v := by
  have read := h.readValue_write within (Nat.le_refl _) [] Ended.nil
  rw [List.append_nil] at read
  rw [printed, read]

namespace Fields

/-- What is printed is read as it is decoded, for all fields. -/
def Faithful : {αs : List Type} → Fields αs → Prop
  | _, nil => True
  | _, cons field rest => field.format.Faithful ∧ rest.Faithful

variable {αs : List Type} {fields : Fields αs}

theorem Faithful.readsAs (h : fields.Faithful) {v : Json} (integral : Integral v) {bounds : Bounds}
    (within : Within bounds.levels v) (short : (Utf8.encode v.write).length ≤ bounds.items)
    (name : String) : fields.ReadsAs bounds name (Utf8.encode v.write) v := by
  induction fields with
  | nil => exact integral.written
  | cons field rest ih =>
    exact readsAs_cons (fun _ => h.1 v integral bounds within short) fun _ => ih h.2

/-- What is left of a list behind its first `n` items: nothing but the bracket, or a comma first
unless no item came before. -/
def leftOfList (n : Nat) : List Json → Bytes
  | [] => [93]
  | v :: vs => (if n = 0 then [] else [44]) ++ (Utf8.encode v.write ++ Utf8.encode (writeItems vs))

theorem encode_writeItems (n : Nat) (vs : List Json) :
    Utf8.encode (writeItems vs) = leftOfList (n + 1) vs := by
  cases vs with
  | nil => rfl
  | cons v vs => rw [encode_writeItems_cons, leftOfList, if_neg (Nat.succ_ne_zero n)]

theorem nextItem?_leftOfList (n : Nat) {v : Json} (integral : Integral v) (vs : List Json)
    (rest : Bytes) :
    nextItem? (n == 0) (leftOfList n (v :: vs) ++ rest) =
      .ok (some (Utf8.encode v.write ++ (leftOfList (n + 1) vs ++ rest))) := by
  obtain ⟨b, s, bytes, no_blank, no_end, -⟩ := integral.first_byte
  have separates : Separates (n == 0) (if n = 0 then [] else [44]) := by
    cases n with
    | zero => exact .first
    | succ n => exact .comma Blank.nil
  have next := nextItem?_append separates no_blank no_end
    (s ++ (leftOfList (n + 1) vs ++ rest))
  rw [leftOfList, encode_writeItems n, bytes]
  simpa using next

/-- The items of a list are read as they are decoded. -/
theorem Faithful.readList (h : fields.Faithful) (expected : String) (bounds : Bounds)
    {vs : List Json} (integral : ∀ v ∈ vs, Integral v) (within : ∀ v ∈ vs, Within bounds.levels v)
    (short : ∀ v ∈ vs, (Utf8.encode v.write).length ≤ bounds.items) {as : Values αs}
    (decoded : fields.decodeItems vs = some as) (n : Nat) (rest : Bytes) :
    fields.readList expected bounds n (leftOfList n vs ++ rest) = .ok (as, rest) := by
  induction fields generalizing vs n with
  | nil =>
    cases vs with
    | nil => rfl
    | cons => cases decoded
  | cons field fields ih =>
    rw [Fields.readList]
    cases vs with
    | nil =>
      have at_end : nextItem? (n == 0) (leftOfList n [] ++ rest) = .ok none := rfl
      rw [at_end, ok_bind]
      rw [decodeItems] at decoded
      cases absent : field.absent with
      | none => cases absent ▸ decoded
      | some a =>
        rw [absent] at decoded
        obtain ⟨behind, rest_decoded, rfl⟩ := Option.map_eq_some_iff.1 decoded
        have read := ih h.2 integral within short rest_decoded (n + 1)
        have same : leftOfList n [] = leftOfList (n + 1) [] := rfl
        dsimp only
        rw [same, read]
        rfl
    | cons v vs =>
      obtain ⟨v_integral, vs_integral⟩ := List.forall_mem_cons.1 integral
      obtain ⟨v_within, vs_within⟩ := List.forall_mem_cons.1 within
      obtain ⟨v_short, vs_short⟩ := List.forall_mem_cons.1 short
      obtain ⟨a, own, decoded⟩ := Option.bind_eq_some_iff.1 decoded
      obtain ⟨behind, rest_decoded, same⟩ := Option.bind_eq_some_iff.1 decoded
      obtain rfl := Option.some.inj same
      have ended : Ended (leftOfList (n + 1) vs ++ rest) := by
        rw [← encode_writeItems n]
        exact ended_writeItems vs rest
      have item := h.1 v v_integral bounds v_within v_short a own [] _ Blank.nil ended
      rw [List.nil_append] at item
      rw [nextItem?_leftOfList n v_integral, ok_bind]
      dsimp only
      rw [item, ok_bind]
      dsimp only
      rw [ih h.2 vs_integral vs_within vs_short rest_decoded (n + 1)]
      rfl

end Fields

/-- A record is read from what is printed for an object or a list as it is decoded. -/
theorem Format.faithful_record {αs : List Type} {fields : Fields αs} (name : String)
    (h : fields.Faithful) : (record name fields).Faithful := by
  intro v integral bounds within short as decoded blanks rest blank _
  obtain ⟨levels, items⟩ := bounds
  cases integral with
  | @object members all =>
    cases within with
    | @object levels _ within =>
      obtain ⟨s, bytes, written⟩ := exists_members_write members
      rw [bytes, List.length_cons] at short
      have documents : (printedMembers members).map (fun m => (m.1, printed levels m.2)) =
          members := by
        rw [printedMembers, List.map_map]
        refine (List.map_congr_left fun member mem => ?_).trans (List.map_id _)
        simp [(all member mem).printed_write (within member mem)]
      have fits : ∀ member ∈ printedMembers members,
          fields.ReadsAs ⟨levels, items⟩ member.1 member.2 (printed levels member.2) := by
        intro printed_member printed_mem
        have fewer := written.length_le_of_mem printed_mem
        obtain ⟨member, mem, rfl⟩ := List.mem_map.1 printed_mem
        dsimp only at fewer ⊢
        rw [(all member mem).printed_write (within member mem)]
        exact h.readsAs (all member mem) (within member mem) (by dsimp only at short ⊢; omega) _
      have decoded : fields.valuesOf
          ((printedMembers members).map fun m => (m.1, printed levels m.2)) = some as := by
        rw [documents, ← decode_record_object name]
        exact decoded
      rw [bytes, List.cons_append]
      exact read_record name written fits (Nat.le_of_succ_le short) decoded blank rest
  | @list vs all =>
    cases within with
    | @list levels _ within =>
      obtain ⟨-, item_short⟩ := length_write_list vs
      have bytes : Utf8.encode (write (.list vs)) = 91 :: Fields.leftOfList 0 vs := by
        cases vs with
        | nil => rfl
        | cons v vs => exact encode_write_list v vs
      have read (expected : String) :
          fields.readList expected ⟨levels, items⟩ 0 (Fields.leftOfList 0 vs ++ rest) =
            .ok (as, rest) :=
        h.readList expected ⟨levels, items⟩ all within
          (fun v mem => Nat.le_trans (item_short v mem) short) decoded 0 rest
      rw [bytes, List.cons_append, record]
      dsimp only
      rw [blank.skipBlanks_cons rfl]
      simpa using read _
  | _ => cases decoded

end FlagHost.Json

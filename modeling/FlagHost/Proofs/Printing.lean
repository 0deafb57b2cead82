import FlagHost.Proofs.Objects

/-!
# Printed documents

Documents without doubles, whose integers fit 64 bits. Main statement: what is printed for such a
document is read as the same document, whatever comes behind it.
-/

namespace FlagHost.Json

/-! ## Digits -/

/-- The bytes of digits. -/
theorem encodeChar_digit {c : Char} (digit : c.isDigit) :
    ∃ b : UInt8, Utf8.encodeChar c = [b] ∧ isDigit b ∧ b.toNat = c.toNat := by
  have bounds : 48 ≤ c.toNat ∧ c.toNat ≤ 57 := by
    simpa [Char.isDigit, UInt32.le_iff_toNat_le] using digit
  have small : c.toNat < 128 := by omega
  refine ⟨UInt8.ofNat c.toNat, ?_, ?_, ?_⟩
  · simp [Utf8.encodeChar, Utf8.encodePoint, small]
  · simp [isDigit, UInt8.le_iff_toNat_le]
    omega
  · simp
    omega

theorem digits_encode {ds : List Char} (digits : ∀ c ∈ ds, c.isDigit) :
    Digits (Utf8.encode ds) := by
  intro b mem
  obtain ⟨c, c_mem, b_mem⟩ := List.mem_flatMap.1 mem
  obtain ⟨d, byte, digit, -⟩ := encodeChar_digit (digits c c_mem)
  rw [byte] at b_mem
  obtain rfl := List.mem_singleton.1 b_mem
  exact digit

theorem exists_digit_encode {ds : List Char} (digits : ∀ c ∈ ds, c.isDigit)
    (some_digit : ds ≠ []) : ∃ b s, Utf8.encode ds = b :: s ∧ isDigit b ∧ Digits s := by
  cases ds with
  | nil => exact absurd rfl some_digit
  | cons c ds =>
    obtain ⟨first, behind⟩ := List.forall_mem_cons.1 digits
    obtain ⟨b, byte, digit, -⟩ := encodeChar_digit first
    exact ⟨b, Utf8.encode ds, by rw [Utf8.encode_cons, byte]; rfl, digit, digits_encode behind⟩

theorem isDigit_of_mem_toDigits {n : Nat} {c : Char} (mem : c ∈ Nat.toDigits 10 n) : c.isDigit :=
  Nat.isDigit_of_mem_toDigits (by decide) (by decide) mem

/-- Digits are read as long as the number that they write fits. -/
theorem readMantissa_digits {ds : List Char} (digits : ∀ c ∈ ds, c.isDigit) {n : Nat}
    (fits : Nat.ofDigitChars 10 ds n < 0x10000000000000000) (count : Nat) {rest : Bytes}
    (stop : digitNext rest = false) :
    readMantissa n count (Utf8.encode ds ++ rest) =
      (Nat.ofDigitChars 10 ds n, count + ds.length, rest) := by
  induction ds generalizing n count with
  | nil =>
    cases rest with
    | nil => rfl
    | cons b rest =>
      have no_digit : isDigit b = false := stop
      simp [Utf8.encode, readMantissa, no_digit]
  | cons c ds ih =>
    obtain ⟨b, byte, digit, same⟩ := encodeChar_digit (digits c List.mem_cons_self)
    have value : 10 * n + Json.digit b = 10 * n + (c.toNat - '0'.toNat) := by
      rw [Json.digit, same]
      rfl
    rw [Nat.ofDigitChars_cons] at fits ⊢
    have small : 10 * n + (c.toNat - '0'.toNat) < 0x10000000000000000 := by
      refine Nat.lt_of_le_of_lt ?_ fits
      rw [Nat.ofDigitChars_eq_ofDigitChars_zero]
      exact Nat.le_add_right_of_le (Nat.le_mul_of_pos_left _ (Nat.pow_pos (by decide)))
    rw [Utf8.encode_cons, byte, List.cons_append, List.nil_append, List.cons_append, readMantissa,
      value, if_pos ⟨digit, small⟩, ih (fun c mem => digits c (List.mem_cons_of_mem _ mem)) fits]
    simp [Nat.add_comm, Nat.add_left_comm]

/-- The first digit of a number is no zero. -/
theorem head_toDigits {n : Nat} (pos : 0 < n) :
    ∃ c ds, Nat.toDigits 10 n = c :: ds ∧ c ≠ '0' := by
  induction n using Nat.strongRecOn with
  | ind n ih =>
    by_cases small : n < 10
    · refine ⟨n.digitChar, [], Nat.toDigits_of_lt_base small, fun zero => ?_⟩
      exact Nat.ne_of_gt pos (Nat.digitChar_eq_zero.1 zero)
    · obtain ⟨c, ds, digits, no_zero⟩ := ih (n / 10) (by omega) (by omega)
      refine ⟨c, ds ++ [(n % 10).digitChar], ?_, no_zero⟩
      rw [Nat.toDigits_of_base_le (by decide) (Nat.not_lt.1 small), digits, List.cons_append]

/-- The digits of a number are read as it. -/
theorem readNumber_digits (negative : Bool) {n : Nat} (fits : n < 0x10000000000000000)
    {rest : Bytes} (stop : digitNext rest = false) :
    readNumber negative (Utf8.encode (Nat.toDigits 10 n) ++ rest) =
      readNumberTail negative n rest := by
  rcases Nat.eq_zero_or_pos n with rfl | pos
  · have zero : Utf8.encode (Nat.toDigits 10 0) = [48] := by decide
    rw [zero, List.cons_append, List.nil_append, readNumber, if_pos rfl]
    simp [stop]
  · obtain ⟨c, ds, digits, no_zero⟩ := head_toDigits pos
    have all (d : Char) (mem : d ∈ c :: ds) : d.isDigit := isDigit_of_mem_toDigits (digits ▸ mem)
    obtain ⟨b, byte, digit, same⟩ := encodeChar_digit (all c List.mem_cons_self)
    have number : Nat.ofDigitChars 10 ds (Json.digit b) = n := by
      have := Nat.ofDigitChars_ten_toDigits (n := n)
      rw [digits, Nat.ofDigitChars_cons] at this
      rw [Json.digit, same]
      simpa using this
    have read := readMantissa_digits (fun d mem => all d (List.mem_cons_of_mem _ mem))
      (number.symm ▸ fits) 0 stop
    have first : b ≠ 48 := by
      rintro rfl
      exact no_zero (Char.toNat_inj.1 same.symm)
    rw [digits, Utf8.encode_cons, byte, List.cons_append, List.nil_append, List.cons_append,
      readNumber, if_neg first, if_pos digit, read, number]
    simp [stop]

theorem readNumberTail_of_ended (negative : Bool) (n : Nat) {rest : Bytes} (ended : Ended rest) :
    readNumberTail negative n rest =
      if !negative then .ok (.integer n, rest)
      else if 0 < n ∧ n ≤ 0x8000000000000000 then .ok (.integer (-n), rest)
      else .ok (.float (-(Float.ofNat n)), rest) := by
  cases rest with
  | nil => rfl
  | cons b rest =>
    obtain ⟨-, no_point, no_e, no_E⟩ := ended b rfl
    simp [readNumberTail, no_point, no_e, no_E]

/-! ## Documents -/

/-- The document has no doubles, and its integers fit 64 bits, with a sign or without one. -/
inductive Integral : Json → Prop where
  | null : Integral .null
  | boolean (b : Bool) : Integral (.boolean b)
  | integer {n : Int} (least : -0x8000000000000000 ≤ n) (greatest : n < 0x10000000000000000) :
      Integral (.integer n)
  | text (s : String) : Integral (.text s)
  | list {items : List Json} (all : ∀ v ∈ items, Integral v) : Integral (.list items)
  | object {members : List (String × Json)} (all : ∀ member ∈ members, Integral member.2) :
      Integral (.object members)

/-- The document has so many lists and objects in one another at most. -/
inductive Within : Nat → Json → Prop where
  | null {levels : Nat} : Within levels .null
  | boolean {levels : Nat} (b : Bool) : Within levels (.boolean b)
  | integer {levels : Nat} (n : Int) : Within levels (.integer n)
  | float {levels : Nat} (x : Float) : Within levels (.float x)
  | text {levels : Nat} (s : String) : Within levels (.text s)
  | list {levels : Nat} {items : List Json} (all : ∀ v ∈ items, Within levels v) :
      Within (levels + 1) (.list items)
  | object {levels : Nat} {members : List (String × Json)}
      (all : ∀ member ∈ members, Within levels member.2) : Within (levels + 1) (.object members)

/-- The bytes of an integer. -/
theorem encode_integer (n : Int) :
    Utf8.encode (write (.integer n)) =
      (if n < 0 then [45] else []) ++ Utf8.encode (Nat.toDigits 10 n.natAbs) := by
  rw [write]
  cases n with
  | ofNat n =>
    have digits : (toString (Int.ofNat n)).toList = Nat.toDigits 10 n := by
      rw [show toString (Int.ofNat n) = Nat.repr n from rfl, Nat.repr_eq_ofList_toDigits,
        String.toList_ofList]
    have no_sign : ¬ Int.ofNat n < 0 := Int.not_lt.2 (Int.natCast_nonneg n)
    rw [digits, if_neg no_sign]
    rfl
  | negSucc n =>
    have digits : (toString (Int.negSucc n)).toList = '-' :: Nat.toDigits 10 (n + 1) := by
      simp [show toString (Int.negSucc n) = "-" ++ Nat.repr (n + 1) from rfl, String.toList_append,
        Nat.repr_eq_ofList_toDigits]
    rw [digits, if_pos (Int.negSucc_lt_zero n), Utf8.encode_cons]
    rfl

theorem exists_digit_toDigits (n : Nat) :
    ∃ b s, Utf8.encode (Nat.toDigits 10 n) = b :: s ∧ isDigit b := by
  obtain ⟨b, s, bytes, digit, -⟩ :=
    exists_digit_encode (fun _ => isDigit_of_mem_toDigits) (Nat.toDigits_ne_nil (n := n))
  exact ⟨b, s, bytes, digit⟩

/-- What is printed begins with a byte that is no blank and ends no list, and only null begins as
null does. -/
theorem Integral.first_byte {v : Json} (h : Integral v) :
    ∃ b s, Utf8.encode v.write = b :: s ∧ isBlankByte b = false ∧ b ≠ 93 ∧
      (v ≠ .null → b ≠ 110) := by
  cases h with
  | null => exact ⟨110, _, rfl, rfl, by decide, fun other => absurd rfl other⟩
  | boolean b =>
    cases b
    · exact ⟨102, _, rfl, rfl, by decide, fun _ => by decide⟩
    · exact ⟨116, _, rfl, rfl, by decide, fun _ => by decide⟩
  | @integer n =>
    rw [encode_integer]
    by_cases negative : n < 0
    · rw [if_pos negative]
      exact ⟨45, _, rfl, rfl, by decide, fun _ => by decide⟩
    · rw [if_neg negative]
      obtain ⟨b, s, digits, digit⟩ := exists_digit_toDigits n.natAbs
      have no_bracket : b ≠ 93 := by
        rintro rfl
        exact nomatch digit
      have no_letter : b ≠ 110 := by
        rintro rfl
        exact nomatch digit
      exact ⟨b, s, digits, isBlankByte_of_isDigit digit, no_bracket, fun _ => no_letter⟩
  | text s => exact ⟨34, _, rfl, rfl, by decide, fun _ => by decide⟩
  | @list items =>
    cases items <;> exact ⟨91, _, rfl, rfl, by decide, fun _ => by decide⟩
  | @object members =>
    cases members <;> exact ⟨123, _, rfl, rfl, by decide, fun _ => by decide⟩

/-- What is printed for an integer is read as the number. -/
theorem exists_number_write {n : Int} (least : -0x8000000000000000 ≤ n)
    (greatest : n < 0x10000000000000000) :
    ∃ negative b s, Utf8.encode (write (.integer n)) = (if negative then [45] else []) ++ b :: s ∧
      isDigit b ∧ ∀ rest, Ended rest →
        readNumber negative (b :: s ++ rest) = .ok (.integer n, rest) := by
  have fits : n.natAbs < 0x10000000000000000 := by omega
  obtain ⟨b, s, bytes, digit⟩ := exists_digit_toDigits n.natAbs
  refine ⟨n < 0, b, s, ?_, digit, fun rest ended => ?_⟩
  · rw [encode_integer, bytes]
    simp
  rw [← bytes, readNumber_digits _ fits ended.digitNext, readNumberTail_of_ended _ _ ended]
  by_cases negative : n < 0
  · have inside : 0 < n.natAbs ∧ n.natAbs ≤ 0x8000000000000000 := by omega
    have value : -(n.natAbs : Int) = n := by omega
    simp only [negative, decide_true, Bool.not_true, Bool.false_eq_true, if_false, if_pos inside,
      value]
  · have value : (n.natAbs : Int) = n := by omega
    simp only [negative, decide_false, Bool.not_false, if_true, value]

/-! ## Items and members -/

/-- The reader gives the value for what was printed of the document. -/
def GivesBack {α : Type} (reader : Bytes → Except Fault (α × Bytes)) (v : Json) (a : α) : Prop :=
  ∀ rest, Ended rest → reader (Utf8.encode v.write ++ rest) = .ok (a, rest)

theorem ended_writeItems (vs : List Json) (rest : Bytes) :
    Ended (Utf8.encode (writeItems vs) ++ rest) := by
  cases vs <;> exact ended_cons (by decide) _

theorem ended_writeMembers (members : List (String × Json)) (rest : Bytes) :
    Ended (Utf8.encode (writeMembers members) ++ rest) := by
  cases members <;> exact ended_cons (by decide) _

theorem nextItem?_append {first : Bool} {separator : Bytes} (separates : Separates first separator)
    {b : UInt8} (no_blank : isBlankByte b = false) (no_end : b ≠ 93) (s : Bytes) :
    nextItem? first (separator ++ b :: s) = .ok (some (b :: s)) := by
  cases separates with
  | first =>
    rw [List.nil_append, nextItem?, skipBlanks_of_first no_blank]
    simp [no_end]
  | comma blank =>
    rw [List.append_assoc, List.singleton_append, nextItem?, blank.skipBlanks_cons rfl]
    simp [skipBlanks_of_first no_blank, no_end]

theorem encode_writeItems_cons (v : Json) (vs : List Json) :
    Utf8.encode (writeItems (v :: vs)) =
      [44] ++ (Utf8.encode v.write ++ Utf8.encode (writeItems vs)) := by
  rw [writeItems, Utf8.encode_append]
  rfl

theorem encode_writeMembers_cons (k : String) (v : Json) (members : List (String × Json)) :
    Utf8.encode (writeMembers ((k, v) :: members)) =
      [44] ++ (Utf8.encode (writeText k) ++ 58 ::
        (Utf8.encode v.write ++ Utf8.encode (writeMembers members))) := by
  simp only [writeMembers, Utf8.encode_cons, Utf8.encode_append, List.append_assoc,
    List.cons_append]
  rfl

theorem encode_write_list (v : Json) (vs : List Json) :
    Utf8.encode (write (.list (v :: vs))) =
      91 :: (Utf8.encode v.write ++ Utf8.encode (writeItems vs)) := by
  rw [write, List.cons_append, Utf8.encode_cons, Utf8.encode_append]
  rfl

theorem encode_write_object (k : String) (v : Json) (members : List (String × Json)) :
    Utf8.encode (write (.object ((k, v) :: members))) =
      123 :: (Utf8.encode (writeText k) ++
        58 :: (Utf8.encode v.write ++ Utf8.encode (writeMembers members))) := by
  simp only [write, Utf8.encode_cons, Utf8.encode_append, List.cons_append, List.append_assoc]
  rfl

section Steps

variable {α : Type} {reader : Bytes → Except Fault (α × Bytes)} {first : Bool} {separator : Bytes}
  (separates : Separates first separator) {v : Json} {a : α} (back : GivesBack reader v a)
  (more : Nat)
include separates back

theorem readItems_item (integral : Integral v) (done : List α) {rest : Bytes}
    (ended : Ended rest) :
    readItems reader (more + 1) first done (separator ++ (Utf8.encode v.write ++ rest)) =
      readItems reader more false (a :: done) rest := by
  have item := back rest ended
  obtain ⟨b, s, bytes, no_blank, no_end, -⟩ := integral.first_byte
  rw [bytes, List.cons_append] at item ⊢
  rw [readItems, nextItem?_append separates no_blank no_end, ok_bind]
  dsimp only
  rw [item, ok_bind]

theorem readMembers_member (k : String) (done : List (String × α)) {rest : Bytes}
    (ended : Ended rest) :
    readMembers reader (more + 1) first done
        (separator ++ (Utf8.encode (writeText k) ++ 58 :: (Utf8.encode v.write ++ rest))) =
      readMembers reader more false ((k, a) :: done) rest := by
  obtain ⟨s, bytes, spells⟩ := exists_spells_writeText k
  have name := nextName?_append separates Blank.nil spells (58 :: (Utf8.encode v.write ++ rest))
  have colon := passColon_append Blank.nil (Utf8.encode v.write ++ rest)
  rw [List.nil_append] at name colon
  simp only [bytes, List.append_assoc, List.cons_append, List.nil_append]
  rw [readMembers, name, ok_bind]
  dsimp only
  rw [colon, ok_bind, back rest ended, ok_bind]

end Steps

/-- The items behind the first one are read back. -/
theorem readItems_write {α : Type} {reader : Bytes → Except Fault (α × Bytes)} {vs : List Json}
    {as : List α} (integral : ∀ v ∈ vs, Integral v) (back : List.Forall₂ (GivesBack reader) vs as)
    {more : Nat} (few : vs.length < more) (done : List α) (rest : Bytes) :
    readItems reader more false done (Utf8.encode (writeItems vs) ++ rest) =
      .ok (done.reverse ++ as, 93 :: rest) := by
  induction back generalizing more done with
  | nil =>
    obtain ⟨more, rfl⟩ := Nat.exists_eq_add_one.2 (Nat.zero_lt_of_lt few)
    rw [List.append_nil]
    rfl
  | @cons v a vs as first _ ih =>
    obtain ⟨more, rfl⟩ := Nat.exists_eq_add_one.2 (Nat.zero_lt_of_lt few)
    have item := readItems_item (.comma Blank.nil) first more (integral v List.mem_cons_self) done
      (ended_writeItems vs rest)
    have items := ih (fun v mem => integral v (List.mem_cons_of_mem _ mem))
      (Nat.lt_of_succ_lt_succ few) (a :: done)
    rw [encode_writeItems_cons, List.append_assoc, List.append_assoc]
    exact item.trans (by simpa using items)

/-- The items of a list are read back behind its bracket. -/
theorem exists_readItems_write {α : Type} {reader : Bytes → Except Fault (α × Bytes)}
    {vs : List Json} {as : List α} (integral : ∀ v ∈ vs, Integral v)
    (back : List.Forall₂ (GivesBack reader) vs as) {more : Nat} (few : vs.length < more) :
    ∃ s, Utf8.encode (write (.list vs)) = 91 :: s ∧
      ∀ rest, readItems reader more true [] (s ++ rest) = .ok (as, 93 :: rest) := by
  obtain ⟨more, rfl⟩ := Nat.exists_eq_add_one.2 (Nat.zero_lt_of_lt few)
  cases back with
  | nil => exact ⟨[93], rfl, fun rest => rfl⟩
  | @cons v a vs as first behind =>
    refine ⟨_, encode_write_list v vs, fun rest => ?_⟩
    have item := readItems_item .first first more (integral v List.mem_cons_self) []
      (ended_writeItems vs rest)
    rw [List.append_assoc]
    exact item.trans (readItems_write (fun v mem => integral v (List.mem_cons_of_mem _ mem)) behind
      (Nat.lt_of_succ_lt_succ few) [a] rest)

/-- The members behind the first one are read back. -/
theorem readMembers_write {reader : Bytes → Except Fault (Json × Bytes)}
    {members : List (String × Json)}
    (back : ∀ member ∈ members, GivesBack reader member.2 member.2) {more : Nat}
    (few : members.length < more) (done : List (String × Json)) (rest : Bytes) :
    readMembers reader more false done (Utf8.encode (writeMembers members) ++ rest) =
      .ok (done.reverse ++ members, 125 :: rest) := by
  induction members generalizing more done with
  | nil =>
    obtain ⟨more, rfl⟩ := Nat.exists_eq_add_one.2 (Nat.zero_lt_of_lt few)
    rw [List.append_nil]
    rfl
  | cons entry members ih =>
    obtain ⟨k, v⟩ := entry
    obtain ⟨more, rfl⟩ := Nat.exists_eq_add_one.2 (Nat.zero_lt_of_lt few)
    have member := readMembers_member (.comma Blank.nil) (back (k, v) List.mem_cons_self) more k
      done (ended_writeMembers members rest)
    have behind := ih (fun member mem => back member (List.mem_cons_of_mem _ mem))
      (Nat.lt_of_succ_lt_succ few) ((k, v) :: done)
    rw [encode_writeMembers_cons]
    simp only [List.append_assoc, List.cons_append] at member ⊢
    exact member.trans (by simpa using behind)

theorem length_writeItems (vs : List Json) :
    vs.length < (Utf8.encode (writeItems vs)).length ∧
      ∀ v ∈ vs, (Utf8.encode v.write).length ≤ (Utf8.encode (writeItems vs)).length := by
  induction vs with
  | nil => exact ⟨by decide, fun v mem => nomatch mem⟩
  | cons v vs ih =>
    rw [encode_writeItems_cons]
    simp only [List.length_append, List.length_cons, List.mem_cons]
    refine ⟨by omega, ?_⟩
    rintro w (rfl | mem)
    · omega
    · have := ih.2 w mem
      omega

theorem length_writeMembers (members : List (String × Json)) :
    members.length < (Utf8.encode (writeMembers members)).length ∧
      ∀ member ∈ members,
        (Utf8.encode member.2.write).length ≤ (Utf8.encode (writeMembers members)).length := by
  induction members with
  | nil => exact ⟨by decide, fun v mem => nomatch mem⟩
  | cons member members ih =>
    obtain ⟨k, v⟩ := member
    rw [encode_writeMembers_cons]
    simp only [List.length_append, List.length_cons, List.mem_cons]
    refine ⟨by omega, ?_⟩
    rintro member (rfl | mem)
    · dsimp only
      omega
    · have := ih.2 member mem
      omega

/-! ## Values -/

theorem readValue_digit (items levels : Nat) {b : UInt8} (digit : isDigit b) (s : Bytes) :
    readValue items levels (b :: s) =
      (readNumber false (b :: s)).map fun (n, s) => (n.toJson, s) := by
  unfold readValue
  rw [skipBlanks_of_first (isBlankByte_of_isDigit digit)]
  dsimp only
  split
  iterate 7
    next letter => exact absurd letter (char_ne_of_isDigit digit rfl)
  rw [if_pos digit]

theorem readValue_integer (items levels : Nat) {n : Int} (least : -0x8000000000000000 ≤ n)
    (greatest : n < 0x10000000000000000) :
    GivesBack (readValue items levels) (.integer n) (.integer n) := by
  intro rest ended
  obtain ⟨negative, b, s, bytes, digit, number⟩ := exists_number_write least greatest
  have number := congrArg (Except.map fun (n, s) => (Number.toJson n, s)) (number rest ended)
  rw [bytes]
  cases negative with
  | false => exact (readValue_digit items levels digit (s ++ rest)).trans number
  | true =>
    refine Eq.trans ?_ number
    conv => lhs; unfold readValue
    rfl

theorem readValue_list (items levels : Nat) (s : Bytes) :
    readValue items (levels + 1) (91 :: s) =
      readItems (readValue items levels) items true [] s >>= fun (vs, s) =>
        endList s >>= fun s => .ok (.list vs, s) := by
  conv => lhs; unfold readValue
  rfl

theorem readValue_object (items levels : Nat) (s : Bytes) :
    readValue items (levels + 1) (123 :: s) =
      readMembers (readValue items levels) items true [] s >>= fun (members, s) =>
        endObject s >>= fun s => .ok (.object members, s) := by
  conv => lhs; unfold readValue
  rfl

theorem readValue_list_write {items levels : Nat} {vs : List Json}
    (integral : ∀ v ∈ vs, Integral v) (back : ∀ v ∈ vs, GivesBack (readValue items levels) v v)
    (few : vs.length < items) :
    GivesBack (readValue items (levels + 1)) (.list vs) (.list vs) := by
  intro rest ended
  obtain ⟨s, bytes, read⟩ := exists_readItems_write integral (List.forall₂_same.2 back) few
  rw [bytes, List.cons_append, readValue_list, read]
  rfl

theorem readValue_object_write {items levels : Nat} {members : List (String × Json)}
    (back : ∀ member ∈ members, GivesBack (readValue items levels) member.2 member.2)
    (few : members.length < items) :
    GivesBack (readValue items (levels + 1)) (.object members) (.object members) := by
  intro rest ended
  obtain ⟨more, rfl⟩ := Nat.exists_eq_add_one.2 (Nat.zero_lt_of_lt few)
  match members with
  | [] =>
    have bytes : Utf8.encode (write (.object [])) ++ rest = 123 :: 125 :: rest := rfl
    rw [bytes, readValue_object]
    rfl
  | (k, v) :: members =>
    have member := readMembers_member .first (back (k, v) List.mem_cons_self) more k []
      (ended_writeMembers members rest)
    have behind := readMembers_write (fun member mem => back member (List.mem_cons_of_mem _ mem))
      (Nat.lt_of_succ_lt_succ few) [(k, v)] rest
    rw [List.nil_append] at member
    rw [encode_write_object]
    simp only [List.cons_append, List.append_assoc]
    rw [readValue_object, member, behind]
    rfl

/-- The items of a printed list are fewer than its bytes, and none is longer. -/
theorem length_write_list (vs : List Json) :
    vs.length < (Utf8.encode (write (.list vs))).length ∧
      ∀ v ∈ vs, (Utf8.encode v.write).length ≤ (Utf8.encode (write (.list vs))).length := by
  cases vs with
  | nil => exact ⟨by decide, fun v mem => nomatch mem⟩
  | cons v vs =>
    have behind := length_writeItems vs
    simp only [write, Utf8.encode_append, List.length_append, Utf8.encode_cons,
      List.length_cons, List.mem_cons]
    have some_byte := List.length_pos_iff.2 (Utf8.encodeChar_ne_nil '[')
    refine ⟨by omega, ?_⟩
    rintro w (rfl | mem)
    · omega
    · have := behind.2 w mem
      omega

theorem length_write_object (members : List (String × Json)) :
    members.length < (Utf8.encode (write (.object members))).length ∧
      ∀ member ∈ members,
        (Utf8.encode member.2.write).length ≤ (Utf8.encode (write (.object members))).length := by
  match members with
  | [] => exact ⟨by decide, fun v mem => nomatch mem⟩
  | (k, v) :: members =>
    have behind := length_writeMembers members
    simp only [write, Utf8.encode_append, List.length_append, Utf8.encode_cons,
      List.length_cons, List.mem_cons]
    have some_byte := List.length_pos_iff.2 (Utf8.encodeChar_ne_nil '\x7b')
    refine ⟨by omega, ?_⟩
    rintro member (rfl | mem)
    · dsimp only
      omega
    · have := behind.2 member mem
      omega

/-- What is printed for a document is read as the document. -/
theorem Integral.readValue_write {v : Json} (h : Integral v) {levels : Nat}
    (within : Within levels v) {items : Nat} (enough : (Utf8.encode v.write).length ≤ items) :
    GivesBack (readValue items levels) v v := by
  induction h generalizing levels with
  | null =>
    intro rest _
    unfold readValue
    rfl
  | boolean b =>
    intro rest _
    unfold readValue
    cases b <;> rfl
  | integer least greatest => exact readValue_integer items levels least greatest
  | text t =>
    intro rest _
    obtain ⟨s, bytes, spells⟩ := exists_spells_writeText t
    have read := readText_of_spells spells rest
    rw [String.ofList_toList] at read
    rw [write, bytes, List.append_assoc, List.cons_append, List.singleton_append]
    unfold readValue
    exact congrArg (Except.map _) read
  | @list vs integral ih =>
    cases within with
    | list within =>
      obtain ⟨few, short⟩ := length_write_list vs
      exact readValue_list_write integral
        (fun v mem => ih v mem (within v mem) (Nat.le_trans (short v mem) enough))
        (Nat.lt_of_lt_of_le few enough)
  | @object members _ ih =>
    cases within with
    | object within =>
      obtain ⟨few, short⟩ := length_write_object members
      exact readValue_object_write
        (fun member mem =>
          ih member mem (within member mem) (Nat.le_trans (short member mem) enough))
        (Nat.lt_of_lt_of_le few enough)

/-- The bytes of a document hold the document. -/
theorem Integral.ofBytes_toBytes {v : Json} (h : Integral v) (within : Within nestingLimit v) :
    ofBytes v.toBytes = .ok v := by
  have read := h.readValue_write within (Nat.le_succ _) [] Ended.nil
  rw [List.append_nil] at read
  rw [ofBytes, readAll_eq_ok_iff]
  exact ⟨[], read, rfl⟩

/-- The text of a document holds the document. -/
theorem Integral.ofText_toText {v : Json} (h : Integral v) (within : Within nestingLimit v) :
    ofText v.toText = .ok v := by
  have bytes : Utf8.ofText v.toText = v.toBytes := by
    rw [Utf8.ofText, toText, String.toList_ofList, toBytes]
  rw [ofText, bytes, h.ofBytes_toBytes within]

/-- The members of an object with their values as they are printed. -/
def printedMembers (members : List (String × Json)) : List (String × Bytes) :=
  members.map fun member => (member.1, Utf8.encode member.2.write)

/-- An object is printed as its members. -/
theorem exists_members_write (members : List (String × Json)) :
    ∃ s, Utf8.encode (write (.object members)) = 123 :: s ∧
      Members true (printedMembers members) s := by
  have step {first : Bool} {separator : Bytes} (separates : Separates first separator) (k : String)
      (v : Json) {rest : List (String × Json)} {s : Bytes}
      (written : Members false (printedMembers rest) s) :
      Members first (printedMembers ((k, v) :: rest))
        (separator ++ (Utf8.encode (writeText k) ++ 58 :: (Utf8.encode v.write ++ s))) := by
    obtain ⟨text, bytes, spells⟩ := exists_spells_writeText k
    have member := Members.member (v := Utf8.encode v.write) separates Blank.nil spells Blank.nil
      Blank.nil written
    rw [bytes]
    simpa [printedMembers] using member
  have behind (rest : List (String × Json)) :
      Members false (printedMembers rest) (Utf8.encode (writeMembers rest)) := by
    induction rest with
    | nil => exact .closed false Blank.nil
    | cons member rest ih =>
      obtain ⟨k, v⟩ := member
      rw [encode_writeMembers_cons]
      exact step (.comma Blank.nil) k v ih
  match members with
  | [] => exact ⟨_, rfl, .closed true Blank.nil⟩
  | (k, v) :: rest =>
    exact ⟨_, encode_write_object k v rest, step .first k v (behind rest)⟩

/-! ## Nesting -/

theorem readItems_forall {α : Type} {P : α → Prop} {item : Bytes → Except Fault (α × Bytes)}
    (each : ∀ s v rest, item s = .ok (v, rest) → P v) {more : Nat} {first : Bool} {done vs : List α}
    {s rest : Bytes} (before : ∀ v ∈ done, P v)
    (read : readItems item more first done s = .ok (vs, rest)) : ∀ v ∈ vs, P v := by
  induction more generalizing first done s with
  | zero => exact nomatch read
  | succ more ih =>
    obtain ⟨next, -, read⟩ := bind_eq_ok_iff.1 read
    cases next with
    | none =>
      obtain rfl := congrArg Prod.fst (Except.ok.inj read)
      exact fun v mem => before v (List.mem_reverse.1 mem)
    | some s =>
      obtain ⟨⟨v, s⟩, item_read, read⟩ := bind_eq_ok_iff.1 read
      exact ih (List.forall_mem_cons.2 ⟨each _ _ _ item_read, before⟩) read

theorem readMembers_forall {α : Type} {P : α → Prop} {value : Bytes → Except Fault (α × Bytes)}
    (each : ∀ s v rest, value s = .ok (v, rest) → P v) {more : Nat} {first : Bool}
    {done members : List (String × α)} {s rest : Bytes} (before : ∀ member ∈ done, P member.2)
    (read : readMembers value more first done s = .ok (members, rest)) :
    ∀ member ∈ members, P member.2 := by
  induction more generalizing first done s with
  | zero => exact nomatch read
  | succ more ih =>
    obtain ⟨next, -, read⟩ := bind_eq_ok_iff.1 read
    cases next with
    | none =>
      obtain rfl := congrArg Prod.fst (Except.ok.inj read)
      exact fun member mem => before member (List.mem_reverse.1 mem)
    | some named =>
      obtain ⟨_, -, read⟩ := bind_eq_ok_iff.1 read
      obtain ⟨⟨v, s⟩, value_read, read⟩ := bind_eq_ok_iff.1 read
      exact ih (List.forall_mem_cons.2 ⟨each _ _ _ value_read, before⟩) read

theorem Number.within (n : Number) (levels : Nat) : Within levels n.toJson := by
  cases n with
  | integer n => exact .integer n
  | float x => exact .float x

theorem forall_of_map_eq_ok {P : Json → Prop} {α : Type} {read : Except Fault α}
    {f : α → Json × Bytes} (each : ∀ a, read = .ok a → P (f a).1) {v : Json} {rest : Bytes}
    (found : read.map f = .ok (v, rest)) : P v := by
  obtain ⟨a, read_eq, same⟩ := map_eq_ok_iff.1 found
  obtain rfl := congrArg Prod.fst same
  exact each a read_eq

/-- A property of the documents that are read, by the levels that were left for them, from the
numbers that are read up. -/
theorem readValue_forall {P : Nat → Json → Prop} (null : ∀ levels, P levels .null)
    (boolean : ∀ levels b, P levels (.boolean b)) (text : ∀ levels t, P levels (.text t))
    (number : ∀ levels negative s n rest, readNumber negative s = .ok (n, rest) →
      P levels n.toJson)
    (list : ∀ levels vs, (∀ v ∈ vs, P levels v) → P (levels + 1) (.list vs))
    (object : ∀ levels members, (∀ member ∈ members, P levels member.2) →
      P (levels + 1) (.object members))
    {items levels : Nat} {s rest : Bytes} {v : Json}
    (read : readValue items levels s = .ok (v, rest)) : P levels v := by
  induction levels using Nat.strongRecOn generalizing s v rest with
  | ind levels ih =>
    unfold readValue at read
    split at read
    · exact nomatch read
    · split at read
      · exact forall_of_map_eq_ok (fun _ _ => null levels) read
      · exact forall_of_map_eq_ok (fun _ _ => boolean levels true) read
      · exact forall_of_map_eq_ok (fun _ _ => boolean levels false) read
      · exact forall_of_map_eq_ok (fun _ => number levels _ _ _ _) read
      · exact forall_of_map_eq_ok (fun _ _ => text levels _) read
      · -- A list was opened, which takes a level.
        cases levels with
        | zero => exact nomatch read
        | succ levels =>
          obtain ⟨⟨vs, _⟩, items_read, ended⟩ := bind_eq_ok_iff.1 read
          obtain ⟨_, -, ended⟩ := bind_eq_ok_iff.1 ended
          obtain rfl := congrArg Prod.fst (Except.ok.inj ended)
          exact list levels vs (readItems_forall (fun _ _ _ => ih levels (Nat.lt_succ_self levels))
            (List.forall_mem_nil _) items_read)
      · cases levels with
        | zero => exact nomatch read
        | succ levels =>
          obtain ⟨⟨members, _⟩, members_read, ended⟩ := bind_eq_ok_iff.1 read
          obtain ⟨_, -, ended⟩ := bind_eq_ok_iff.1 ended
          obtain rfl := congrArg Prod.fst (Except.ok.inj ended)
          exact object levels members (readMembers_forall
            (fun _ _ _ => ih levels (Nat.lt_succ_self levels)) (List.forall_mem_nil _) members_read)
      · split at read
        · exact forall_of_map_eq_ok (fun _ => number levels _ _ _ _) read
        · exact nomatch read

/-- What was read is no deeper than it may be. -/
theorem within_of_readValue {items levels : Nat} {s rest : Bytes} {v : Json}
    (read : readValue items levels s = .ok (v, rest)) : Within levels v :=
  readValue_forall (fun _ => .null) (fun _ => .boolean) (fun _ => .text)
    (fun levels _ _ n _ _ => n.within levels) (fun _ _ => .list) (fun _ _ => .object) read

/-- What was read from a text was read as a value. -/
theorem exists_readValue_of_ofText {t : String} {v : Json} (read : ofText t = .ok v) :
    ∃ items rest, readValue items nestingLimit (Utf8.ofText t) = .ok (v, rest) := by
  rw [ofText, ofBytes, readAll_eq_ok_iff] at read
  obtain ⟨rest, read, -⟩ := read
  exact ⟨_, rest, read⟩

theorem within_of_ofText {t : String} {v : Json} (read : ofText t = .ok v) :
    Within nestingLimit v := by
  obtain ⟨items, rest, read⟩ := exists_readValue_of_ofText read
  exact within_of_readValue read

end FlagHost.Json

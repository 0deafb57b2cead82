import FlagHost.Proofs.Spelling

/-!
# Characters among bytes

A byte that begins a character can be told from one that continues a character. So the bytes of a
text stand among those of another text only where its characters do. Main statements: characters
stand in front of others, behind others or among others exactly if their bytes do, different
characters have different bytes, and bytes that are read as a text are the bytes of that text.
-/

namespace FlagHost.Utf8

/-- The byte stands behind the first one of a character. -/
def Continues (b : UInt8) : Prop := 0x80 ≤ b.toNat ∧ b.toNat < 0xC0

theorem continues_tail (n : Nat) : Continues (tail n) := by
  simp only [Continues, tail, UInt8.toNat_ofNat']
  omega

/-- A character is one byte that continues nothing, and bytes that continue it. -/
theorem encodeChar_cases (c : Char) :
    ∃ first more, encodeChar c = first :: more ∧ ¬ Continues first ∧ ∀ b ∈ more, Continues b := by
  have point : c.toNat < 0x110000 := by
    have valid : c.toNat.isValidChar := c.valid
    rcases valid with low | high <;> omega
  have leads {n : Nat} (least : n < 0x80 ∨ 0xC0 ≤ n) (below : n < 256) :
      ¬ Continues (UInt8.ofNat n) := by
    simp only [Continues, UInt8.toNat_ofNat']
    omega
  unfold encodeChar encodePoint
  split
  · exact ⟨_, _, rfl, leads (by omega) (by omega), List.forall_mem_nil _⟩
  split
  · exact ⟨_, _, rfl, leads (by omega) (by omega), by simp [continues_tail]⟩
  split
  · exact ⟨_, _, rfl, leads (by omega) (by omega), by simp [continues_tail]⟩
  · exact ⟨_, _, rfl, leads (by omega) (by omega), by simp [continues_tail]⟩

theorem encode_inj {cs ds : List Char} : encode cs = encode ds ↔ cs = ds := by
  refine ⟨fun same => ?_, congrArg encode⟩
  have texts := (text?_encode cs).symm.trans ((congrArg text? same).trans (text?_encode ds))
  exact String.ofList_injective (Option.some.inj texts)

theorem encode_isPrefix_iff (cs ds : List Char) : encode cs <+: encode ds ↔ cs <+: ds := by
  constructor
  · rintro ⟨rest, same⟩
    induction cs generalizing ds with
    | nil => exact List.nil_prefix
    | cons c cs ih =>
      cases ds with
      | nil =>
        rw [encode_cons, List.append_assoc] at same
        exact absurd (List.append_eq_nil_iff.1 same).1 (encodeChar_ne_nil c)
      | cons d ds =>
        rw [encode_cons, encode_cons, List.append_assoc] at same
        have next := congrArg next? same
        rw [next?_encodeChar, next?_encodeChar] at next
        obtain ⟨rfl, behind⟩ := Prod.mk.inj (Option.some.inj next)
        exact (List.prefix_cons_inj c).2 (ih ds behind)
  · rintro ⟨rest, rfl⟩
    exact ⟨encode rest, (encode_append cs rest).symm⟩

/-- What does not begin with a byte that continues a character. -/
def Fresh (bytes : Bytes) : Prop := ∀ b ∈ bytes.head?, ¬ Continues b

theorem fresh_encode (cs : List Char) : Fresh (encode cs) := by
  cases cs with
  | nil => exact fun b mem => nomatch mem
  | cons c cs =>
    obtain ⟨first, more, bytes, leads, -⟩ := encodeChar_cases c
    intro b mem
    rw [encode_cons, bytes] at mem
    obtain rfl := Option.some.inj mem
    exact leads

theorem Fresh.append {bytes : Bytes} (h : Fresh bytes) (some_byte : bytes ≠ []) (rest : Bytes) :
    Fresh (bytes ++ rest) := by
  cases bytes with
  | nil => exact absurd rfl some_byte
  | cons b bytes => exact h

/-- Bytes of characters are cut between two characters, unless the second part begins with a byte
that continues one. -/
theorem exists_of_encode_eq_append {cs : List Char} {before behind : Bytes} (fresh : Fresh behind)
    (same : encode cs = before ++ behind) :
    ∃ cs₁ cs₂, cs = cs₁ ++ cs₂ ∧ encode cs₁ = before ∧ encode cs₂ = behind := by
  induction cs generalizing before with
  | nil =>
    obtain ⟨rfl, rfl⟩ := List.append_eq_nil_iff.1 same.symm
    exact ⟨[], [], rfl, rfl, rfl⟩
  | cons c cs ih =>
    rw [encode_cons] at same
    rcases List.append_eq_append_iff.1 same with ⟨mid, rfl, later⟩ | ⟨mid, bytes, rfl⟩
    · obtain ⟨cs₁, cs₂, rfl, rfl, rfl⟩ := ih later
      exact ⟨c :: cs₁, cs₂, rfl, encode_cons c cs₁, rfl⟩
    -- The cut is in the bytes of the first character, so it is at one of their ends.
    · obtain ⟨first, more, whole, -, continue_⟩ := encodeChar_cases c
      cases mid with
      | nil =>
        rw [List.append_nil] at bytes
        exact ⟨[c], cs, rfl, (List.flatMap_singleton encodeChar c).trans bytes, rfl⟩
      | cons b mid =>
        cases before with
        | nil => exact ⟨[], c :: cs, rfl, rfl, (encode_cons c cs).trans (by rw [bytes]; rfl)⟩
        | cons a before =>
          obtain ⟨-, rfl⟩ := List.cons.inj (whole.symm.trans bytes)
          exact absurd (continue_ b (by simp)) (fresh b rfl)

theorem encode_isSuffix_iff (cs ds : List Char) : encode cs <:+ encode ds ↔ cs <:+ ds := by
  constructor
  · rintro ⟨before, same⟩
    obtain ⟨ds₁, ds₂, rfl, -, behind⟩ := exists_of_encode_eq_append (fresh_encode cs) same.symm
    rw [encode_inj.1 behind]
    exact List.suffix_append ds₁ cs
  · rintro ⟨before, rfl⟩
    exact ⟨encode before, (encode_append before cs).symm⟩

theorem encode_isInfix_iff (cs ds : List Char) : encode cs <:+: encode ds ↔ cs <:+: ds := by
  constructor
  · rintro ⟨before, behind, same⟩
    cases cs with
    | nil => exact List.nil_infix
    | cons c cs =>
      have some_byte : encode (c :: cs) ≠ [] := by simp [encode_cons, encodeChar_ne_nil]
      have fresh := (fresh_encode (c :: cs)).append some_byte behind
      rw [List.append_assoc] at same
      obtain ⟨ds₁, ds₂, rfl, -, rest⟩ := exists_of_encode_eq_append fresh same.symm
      have front : c :: cs <+: ds₂ := (encode_isPrefix_iff _ ds₂).1 ⟨behind, rest.symm⟩
      exact front.isInfix.trans (List.suffix_append ds₁ ds₂).isInfix
  · rintro ⟨before, behind, rfl⟩
    exact ⟨encode before, encode behind, by simp only [encode_append]⟩

/-! ## Bytes that are read -/

theorem char?_eq_some {n : Nat} {c : Char} (read : char? n = some c) : c.toNat = n := by
  by_cases valid : n.isValidChar
  · rw [char?, dif_pos valid] at read
    cases read
    rfl
  · rw [char?, dif_neg valid] at read
    cases read

theorem more?_eq_some {n m : Nat} {b : UInt8} (read : more? n b = some m) :
    Continues b ∧ m = 64 * n + (b.toNat - 0x80) := by
  unfold more? at read
  split at read
  · next continues => exact ⟨continues, (Option.some.inj read).symm⟩
  · exact nomatch read

theorem charFrom?_eq_some {least n : Nat} {c : Char} (read : charFrom? least n = some c) :
    least ≤ n ∧ c.toNat = n := by
  unfold charFrom? at read
  split at read
  · next enough => exact ⟨enough, char?_eq_some read⟩
  · exact nomatch read

theorem encodeChar_of_point {c : Char} {n : Nat} (point : c.toNat = n) :
    encodeChar c = encodePoint n := congrArg encodePoint point

theorem ofNat_eq {n : Nat} {b : UInt8} (same : n = b.toNat) : UInt8.ofNat n = b := by
  rw [same, UInt8.ofNat_toNat]

theorem tail_eq {n : Nat} {b : UInt8} (continues : Continues b) (same : n % 64 = b.toNat - 0x80) :
    tail n = b := by
  obtain ⟨low, high⟩ := continues
  exact ofNat_eq (by omega)

/-- A character is read from its own bytes only. -/
theorem next?_eq_some {bytes rest : Bytes} {c : Char} (read : next? bytes = some (c, rest)) :
    bytes = encodeChar c ++ rest := by
  unfold next? at read
  split at read
  · exact nomatch read
  next b behind =>
  have byte := b.toNat_lt
  split at read
  · next one =>
    obtain ⟨_, found, same⟩ := Option.map_eq_some_iff.1 read
    cases same
    have point := char?_eq_some found
    rw [encodeChar_of_point point, encodePoint, if_pos one, UInt8.ofNat_toNat]
    rfl
  split at read
  · exact nomatch read
  split at read
  · split at read
    · next b₁ behind =>
      obtain ⟨_, found, same⟩ := Option.map_eq_some_iff.1 read
      cases same
      obtain ⟨n, first, found⟩ := Option.bind_eq_some_iff.1 found
      obtain ⟨continues, value⟩ := more?_eq_some first
      obtain ⟨least, point⟩ := charFrom?_eq_some found
      obtain ⟨low, high⟩ := id continues
      rw [encodeChar_of_point point, encodePoint, if_neg (by omega), if_pos (by omega),
        ofNat_eq (b := b) (by omega), tail_eq continues (by omega)]
      rfl
    · exact nomatch read
  split at read
  · split at read
    · next b₁ b₂ behind =>
      obtain ⟨_, found, same⟩ := Option.map_eq_some_iff.1 read
      cases same
      obtain ⟨n, second, found⟩ := Option.bind_eq_some_iff.1 found
      obtain ⟨m, first, second⟩ := Option.bind_eq_some_iff.1 second
      obtain ⟨continues, value⟩ := more?_eq_some first
      obtain ⟨continues', value'⟩ := more?_eq_some second
      obtain ⟨least, point⟩ := charFrom?_eq_some found
      obtain ⟨low, high⟩ := id continues
      obtain ⟨low', high'⟩ := id continues'
      rw [encodeChar_of_point point, encodePoint, if_neg (by omega), if_neg (by omega),
        if_pos (by omega),
        ofNat_eq (b := b) (by omega), tail_eq continues (by omega), tail_eq continues' (by omega)]
      rfl
    · exact nomatch read
  split at read
  · split at read
    · next b₁ b₂ b₃ behind =>
      obtain ⟨_, found, same⟩ := Option.map_eq_some_iff.1 read
      cases same
      obtain ⟨n, third, found⟩ := Option.bind_eq_some_iff.1 found
      obtain ⟨m, second, third⟩ := Option.bind_eq_some_iff.1 third
      obtain ⟨k, first, second⟩ := Option.bind_eq_some_iff.1 second
      obtain ⟨continues, value⟩ := more?_eq_some first
      obtain ⟨continues', value'⟩ := more?_eq_some second
      obtain ⟨continues'', value''⟩ := more?_eq_some third
      obtain ⟨least, point⟩ := charFrom?_eq_some found
      obtain ⟨low, high⟩ := id continues
      obtain ⟨low', high'⟩ := id continues'
      obtain ⟨low'', high''⟩ := id continues''
      rw [encodeChar_of_point point, encodePoint, if_neg (by omega), if_neg (by omega),
        if_neg (by omega),
        ofNat_eq (b := b) (by omega), tail_eq continues (by omega), tail_eq continues' (by omega),
        tail_eq continues'' (by omega)]
      rfl
    · exact nomatch read
  · exact nomatch read

theorem decodeOnto_eq_some {done cs : List Char} {fuel : Nat} {bytes : Bytes}
    (read : decodeOnto done fuel bytes = some cs) :
    ∃ ds, cs = ds.reverse ++ done ∧ bytes = encode ds := by
  induction fuel generalizing done bytes with
  | zero =>
    cases bytes with
    | nil => exact ⟨[], (Option.some.inj read).symm, rfl⟩
    | cons b bytes => exact nomatch read
  | succ fuel ih =>
    cases bytes with
    | nil => exact ⟨[], (Option.some.inj read).symm, rfl⟩
    | cons b bytes =>
      unfold decodeOnto at read
      split at read
      · next c rest found =>
        obtain ⟨ds, rfl, rfl⟩ := ih read
        exact ⟨c :: ds, by simp, by rw [next?_eq_some found, encode_cons]⟩
      · exact nomatch read

/-- Bytes that are read as a text are its bytes. -/
theorem text?_eq_some_iff (bytes : Bytes) (text : String) :
    text? bytes = some text ↔ bytes = ofText text := by
  constructor
  · intro read
    obtain ⟨cs, found, rfl⟩ := Option.map_eq_some_iff.1 read
    obtain ⟨ds, rfl, rfl⟩ := decodeOnto_eq_some found
    rw [ofText, String.toList_ofList, List.append_nil, List.reverse_reverse]
  · rintro rfl
    rw [ofText, text?_encode, String.ofList_toList]

end FlagHost.Utf8

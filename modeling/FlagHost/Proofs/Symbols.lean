import FlagHost.Base64
import FlagHost.Proofs.Outcome
import FlagHost.Proofs.Spans
import Mathlib.Data.List.Forall2

/-!
# Symbols of either alphabet

`Writes bytes s` says that the symbols `s` write the bytes, by the tables of the two alphabets of
base64: each symbol may be taken from either, and signs of equality may fill up the last group or
not. Main statements: such symbols are decoded as the bytes that they write, symbols that stand for
one another may be exchanged, and what is decoded with padding is decoded without it.
-/

namespace FlagHost.Base64

/-- The symbols of the standard alphabet, by the six bits that they carry. -/
def standard : Bytes :=
  Utf8.ofText "ABCDEFGHIJKLMNOPQRSTUVWXYZabcdefghijklmnopqrstuvwxyz0123456789+/"

/-- The symbols of the alphabet that is safe in addresses. -/
def addressSafe : Bytes :=
  Utf8.ofText "ABCDEFGHIJKLMNOPQRSTUVWXYZabcdefghijklmnopqrstuvwxyz0123456789-_"

/-- The symbol carries the six bits in one of the alphabets. -/
def Carries (symbol : UInt8) (v : Nat) : Prop :=
  standard[v]? = some symbol ∨ addressSafe[v]? = some symbol

/-- The symbols write the bytes. -/
inductive Writes : Bytes → Bytes → Prop where
  | nil : Writes [] []
  | three {a b c s₁ s₂ s₃ s₄ : UInt8} {bytes s : Bytes} (first : Carries s₁ (a.toNat / 4))
      (second : Carries s₂ (16 * (a.toNat % 4) + b.toNat / 16))
      (third : Carries s₃ (4 * (b.toNat % 16) + c.toNat / 64)) (fourth : Carries s₄ (c.toNat % 64))
      (rest : Writes bytes s) : Writes (a :: b :: c :: bytes) (s₁ :: s₂ :: s₃ :: s₄ :: s)
  | two {a b s₁ s₂ s₃ : UInt8} {fill : Bytes} (first : Carries s₁ (a.toNat / 4))
      (second : Carries s₂ (16 * (a.toNat % 4) + b.toNat / 16))
      (third : Carries s₃ (4 * (b.toNat % 16))) (padded : fill = [] ∨ fill = [61]) :
      Writes [a, b] (s₁ :: s₂ :: s₃ :: fill)
  | one {a s₁ s₂ : UInt8} {fill : Bytes} (first : Carries s₁ (a.toNat / 4))
      (second : Carries s₂ (16 * (a.toNat % 4))) (padded : fill = [] ∨ fill = [61, 61]) :
      Writes [a] (s₁ :: s₂ :: fill)

/-! ## Decoding -/

theorem Carries.value?_safe {symbol : UInt8} {v : Nat} (h : Carries symbol v) :
    value? (safe symbol) = some v := by
  have all : ∀ n < 64, (∀ b ∈ standard[n]?, value? (safe b) = some n) ∧
      ∀ b ∈ addressSafe[n]?, value? (safe b) = some n := by
    decide +kernel
  have length : standard.length = 64 ∧ addressSafe.length = 64 := by decide +kernel
  rcases h with found | found
  · have inside := (List.getElem?_eq_some_iff.1 found).1
    exact (all v (length.1 ▸ inside)).1 symbol found
  · have inside := (List.getElem?_eq_some_iff.1 found).1
    exact (all v (length.2 ▸ inside)).2 symbol found

theorem ne_padding_of_value? {b : UInt8} {v : Nat} (found : value? b = some v) : b ≠ padding := by
  rintro rfl
  exact nomatch found

theorem values_cons {b : UInt8} {v : Nat} (found : value? b = some v) (place : Nat) (s : Bytes) :
    values place (b :: s) = (values (place + 1) s).map (v :: ·) := by
  rw [values, found]

theorem values_of_carries {symbols : Bytes} {vs : List Nat} (h : List.Forall₂ Carries symbols vs)
    (place : Nat) : values place (symbols.map safe) = .ok vs := by
  induction h generalizing place with
  | nil => rfl
  | cons first _ ih =>
    rw [List.map_cons, values_cons first.value?_safe, ih]
    rfl

theorem ne_padding_of_values {place : Nat} {s : Bytes} {vs : List Nat}
    (carry : values place s = .ok vs) : ∀ b ∈ s, b ≠ padding := by
  induction s generalizing place vs with
  | nil => exact List.forall_mem_nil _
  | cons b s ih =>
    cases found : value? b with
    | none =>
      rw [values, found] at carry
      exact nomatch carry
    | some v =>
      rw [values_cons found] at carry
      obtain ⟨rest, carry, -⟩ := map_eq_ok_iff.1 carry
      exact List.forall_mem_cons.2 ⟨ne_padding_of_value? found, ih carry⟩

/-- The symbols of the last group write the bytes. -/
def Ends (place : Nat) (symbols bytes : Bytes) : Prop :=
  ∃ vs, values place symbols = .ok vs ∧ 2 ≤ symbols.length ∧ bytesOf vs = (bytes, 0)

theorem decodeLast_of_ends {place : Nat} {symbols fill bytes : Bytes} (h : Ends place symbols bytes)
    (padded : ∀ b ∈ fill, b = padding) : decodeLast place (symbols ++ fill) = .ok bytes := by
  obtain ⟨vs, carry, enough, whole⟩ := h
  have plain : ∀ b ∈ symbols, decide (b ≠ padding) = true := by
    simpa using ne_padding_of_values carry
  have taken : (symbols ++ fill).takeWhile (· ≠ padding) = symbols :=
    takeWhile_append_of_stop plain fun b mem => by simp [padded b (List.mem_of_mem_head? mem)]
  have no_other : fill.any (· ≠ padding) = false := by simpa using padded
  have not_few : ¬ symbols.length < 2 := Nat.not_lt.2 enough
  unfold decodeLast
  simp only [taken, List.drop_left, carry, no_other, not_few, whole, ok_bind]
  simp [pure, Except.pure]

/-- Nothing else is decoded as a last group. -/
theorem exists_ends_of_decodeLast {place : Nat} {group bytes : Bytes} (some_byte : group ≠ [])
    (decoded : decodeLast place group = .ok bytes) :
    ∃ symbols fill, group = symbols ++ fill ∧ (∀ b ∈ fill, b = padding) ∧
      Ends place symbols bytes := by
  unfold decodeLast at decoded
  obtain ⟨vs, carry, decoded⟩ := bind_eq_ok_iff.1 decoded
  have split_group := List.prefix_iff_eq_append.1 (List.takeWhile_prefix (l := group) (· ≠ padding))
  dsimp only at decoded
  split at decoded
  · exact nomatch decoded
  next accepted =>
  split at decoded
  · exact nomatch decoded
  next enough =>
  split at decoded
  · exact nomatch decoded
  next whole =>
  obtain rfl := Except.ok.inj decoded
  have two_symbols : 2 ≤ (group.takeWhile (· ≠ padding)).length := by
    refine Nat.not_lt.1 fun few => enough ⟨few, ?_⟩
    simpa using some_byte
  refine ⟨_, _, split_group.symm, fun b mem => ?_, vs, carry, two_symbols, ?_⟩
  · refine Decidable.byContradiction fun other => accepted ⟨?_, .inr ?_⟩
    · simpa using List.ne_nil_of_mem mem
    · exact List.any_eq_true.2 ⟨b, mem, by simpa using other⟩
  · exact Prod.ext rfl (not_not.1 whole)

/-! ## Groups -/

theorem decodeFrom_group {place : Nat} {a b c d : UInt8} {vs : List Nat} {s bytes : Bytes}
    (carry : values place [a, b, c, d] = .ok vs) (some_byte : s ≠ [])
    (behind : decodeFrom (place + 4) s = .ok bytes) :
    decodeFrom place (a :: b :: c :: d :: s) = .ok ((bytesOf vs).1 ++ bytes) := by
  cases s with
  | nil => exact absurd rfl some_byte
  | cons e rest =>
    rw [decodeFrom, carry, ok_bind, behind]
    rfl

theorem decodeFrom_short {s : Bytes} (short : s.length ≤ 4) (place : Nat) :
    decodeFrom place s = decodeLast place s := by
  match s with
  | [] | [_] | [_, _] | [_, _, _] | [_, _, _, _] => rfl
  | _ :: _ :: _ :: _ :: _ :: _ =>
    simp only [List.length_cons] at short
    omega

/-- Bytes that make groups are decoded group by group. -/
theorem decodeFrom_cases {place : Nat} {s bytes : Bytes}
    (decoded : decodeFrom place s = .ok bytes) :
    s.length ≤ 4 ∧ decodeLast place s = .ok bytes ∨
      ∃ a b c d vs behind bytes', s = a :: b :: c :: d :: behind ∧ behind ≠ [] ∧
        values place [a, b, c, d] = .ok vs ∧ decodeFrom (place + 4) behind = .ok bytes' ∧
        bytes = (bytesOf vs).1 ++ bytes' := by
  by_cases short : s.length ≤ 4
  · exact .inl ⟨short, decodeFrom_short short place ▸ decoded⟩
  · match s with
    | [] | [_] | [_, _] | [_, _, _] | [_, _, _, _] => simp at short
    | a :: b :: c :: d :: e :: rest =>
      rw [decodeFrom] at decoded
      obtain ⟨vs, carry, decoded⟩ := bind_eq_ok_iff.1 decoded
      obtain ⟨bytes', behind, decoded⟩ := bind_eq_ok_iff.1 decoded
      obtain rfl := Except.ok.inj decoded
      exact .inr ⟨a, b, c, d, vs, e :: rest, bytes', rfl, by simp, carry, behind, rfl⟩

theorem length_ne_of_decodeFrom {place : Nat} {s bytes : Bytes}
    (decoded : decodeFrom place s = .ok bytes) : s.length % 4 ≠ 1 := by
  induction n : s.length using Nat.strongRecOn generalizing place s bytes with
  | ind n ih =>
    subst n
    rcases decodeFrom_cases decoded with ⟨short, last⟩ | found
    · by_cases some_byte : s = []
      · simp [some_byte]
      · obtain ⟨symbols, fill, rfl, -, vs, -, enough, -⟩ := exists_ends_of_decodeLast some_byte last
        rw [List.length_append] at short ⊢
        omega
    · obtain ⟨a, b, c, d, vs, behind, bytes', rfl, -, -, behind_decoded, -⟩ := found
      have := ih behind.length (by simp only [List.length_cons]; omega) behind_decoded rfl
      simp only [List.length_cons]
      omega

/-- A stray byte at the end would not be decoded in any case. -/
theorem decode_eq_ok_iff (s bytes : Bytes) : decode s = .ok bytes ↔ decodeFrom 0 s = .ok bytes := by
  unfold decode
  split
  · next stray =>
    refine iff_of_false (fun h => nomatch h) fun decoded => ?_
    simp only [strayEnd, Bool.and_eq_true, beq_iff_eq] at stray
    exact length_ne_of_decodeFrom decoded stray.1
  · exact Iff.rfl

/-! ## Written bytes -/

/-- The bits of three bytes, put together again. -/
theorem bytesOf_three (a b c : UInt8) :
    bytesOf [a.toNat / 4, 16 * (a.toNat % 4) + b.toNat / 16, 4 * (b.toNat % 16) + c.toNat / 64,
      c.toNat % 64] = ([a, b, c], 0) := by
  have first : 4 * (a.toNat / 4) + (16 * (a.toNat % 4) + b.toNat / 16) / 16 = a.toNat := by
    have := b.toNat_lt
    omega
  have second : 16 * ((16 * (a.toNat % 4) + b.toNat / 16) % 16) +
      (4 * (b.toNat % 16) + c.toNat / 64) / 4 = b.toNat := by
    have := b.toNat_lt
    have := c.toNat_lt
    omega
  have third : 64 * ((4 * (b.toNat % 16) + c.toNat / 64) % 4) + c.toNat % 64 = c.toNat := by
    have := c.toNat_lt
    omega
  simp only [bytesOf, first, second, third, UInt8.ofNat_toNat]

theorem bytesOf_two (a b : UInt8) :
    bytesOf [a.toNat / 4, 16 * (a.toNat % 4) + b.toNat / 16, 4 * (b.toNat % 16)] = ([a, b], 0) := by
  have first : 4 * (a.toNat / 4) + (16 * (a.toNat % 4) + b.toNat / 16) / 16 = a.toNat := by
    have := b.toNat_lt
    omega
  have second : 16 * ((16 * (a.toNat % 4) + b.toNat / 16) % 16) + 4 * (b.toNat % 16) / 4 =
      b.toNat := by
    have := b.toNat_lt
    omega
  have left : 4 * (b.toNat % 16) % 4 = 0 := by omega
  simp only [bytesOf, first, second, left, UInt8.ofNat_toNat]

theorem bytesOf_one (a : UInt8) :
    bytesOf [a.toNat / 4, 16 * (a.toNat % 4)] = ([a], 0) := by
  have first : 4 * (a.toNat / 4) + 16 * (a.toNat % 4) / 16 = a.toNat := by omega
  have left : 16 * (a.toNat % 4) % 16 = 0 := by omega
  simp only [bytesOf, first, left, UInt8.ofNat_toNat]

theorem decodeFrom_of_writes {bytes s : Bytes} (h : Writes bytes s) (place : Nat) :
    decodeFrom place (s.map safe) = .ok bytes := by
  induction h generalizing place with
  | nil => rfl
  | @three a b c s₁ s₂ s₃ s₄ bytes s first second third fourth rest ih =>
    have carry := values_of_carries (.cons first (.cons second (.cons third (.cons fourth .nil))))
      place
    simp only [List.map_cons, List.map_nil] at carry ⊢
    by_cases last : s = []
    · subst last
      cases rest
      have ends : Ends place [safe s₁, safe s₂, safe s₃, safe s₄] [a, b, c] :=
        ⟨_, carry, by simp, bytesOf_three a b c⟩
      have decoded := decodeLast_of_ends ends (List.forall_mem_nil _)
      rw [List.append_nil] at decoded
      rw [List.map_nil, decodeFrom_short (by simp), decoded]
    · rw [decodeFrom_group carry (by simpa using last) (ih (place + 4)), bytesOf_three]
      rfl
  | @two a b s₁ s₂ s₃ fill first second third padded =>
    have carry := values_of_carries (.cons first (.cons second (.cons third .nil))) place
    have ends : Ends place [safe s₁, safe s₂, safe s₃] [a, b] :=
      ⟨_, carry, by simp, bytesOf_two a b⟩
    rcases padded with rfl | rfl
    · exact decodeLast_of_ends ends (List.forall_mem_nil _)
    · exact decodeLast_of_ends ends (List.forall_mem_singleton.2 rfl)
  | @one a s₁ s₂ fill first second padded =>
    have carry := values_of_carries (.cons first (.cons second .nil)) place
    have ends : Ends place [safe s₁, safe s₂] [a] := ⟨_, carry, by simp, bytesOf_one a⟩
    rcases padded with rfl | rfl
    · exact decodeLast_of_ends ends (List.forall_mem_nil _)
    · exact decodeLast_of_ends ends (by simp [padding, safe])

/-- Symbols of either alphabet are decoded as the bytes that they write. -/
theorem decode_of_writes {bytes s : Bytes} (h : Writes bytes s) :
    decode (s.map safe) = .ok bytes :=
  (decode_eq_ok_iff _ _).2 (decodeFrom_of_writes h 0)

theorem carries_symbol {v : Nat} (inside : v < 64) : Carries (symbol v) v := by
  have all : ∀ n < 64, addressSafe[n]? = some (symbol n) := by decide +kernel
  exact .inr (all v inside)

/-- The symbols that are made for bytes write them, with padding and without. -/
theorem writes_encode (bytes : Bytes) :
    Writes bytes (encode bytes) ∧ Writes bytes (encode bytes ++ fillUp (encode bytes).length) := by
  have first (a : UInt8) : Carries (symbol (a.toNat / 4)) (a.toNat / 4) := by
    have := a.toNat_lt
    exact carries_symbol (by omega)
  have second (a b : UInt8) : Carries (symbol (16 * (a.toNat % 4) + b.toNat / 16))
      (16 * (a.toNat % 4) + b.toNat / 16) := by
    have := b.toNat_lt
    exact carries_symbol (by omega)
  have third (b c : UInt8) : Carries (symbol (4 * (b.toNat % 16) + c.toNat / 64))
      (4 * (b.toNat % 16) + c.toNat / 64) := by
    have := c.toNat_lt
    exact carries_symbol (by omega)
  induction bytes using encode.induct with
  | case1 a b c rest ih =>
    have fourth : Carries (symbol (c.toNat % 64)) (c.toNat % 64) := carries_symbol (by omega)
    have same (n : Nat) : fillUp (n + 4) = fillUp n := by simp [fillUp]
    rw [encode]
    simp only [List.length_cons, List.cons_append, same]
    exact ⟨.three (first a) (second a b) (third b c) fourth ih.1,
      .three (first a) (second a b) (third b c) fourth ih.2⟩
  | case2 a b =>
    have last : Carries (symbol (4 * (b.toNat % 16))) (4 * (b.toNat % 16)) :=
      carries_symbol (by omega)
    exact ⟨.two (first a) (second a b) last (.inl rfl), .two (first a) (second a b) last (.inr rfl)⟩
  | case3 a =>
    have last : Carries (symbol (16 * (a.toNat % 4))) (16 * (a.toNat % 4)) :=
      carries_symbol (by omega)
    exact ⟨.one (first a) last (.inl rfl), .one (first a) last (.inr rfl)⟩
  | case4 => exact ⟨.nil, .nil⟩

/-! ## Padding -/

theorem append_padding_cases {symbols fill s pad : Bytes} (plain : ∀ b ∈ symbols, b ≠ padding)
    (padded : ∀ b ∈ pad, b = padding) (same : s ++ pad = symbols ++ fill) :
    ∃ more, s = symbols ++ more ∧ fill = more ++ pad := by
  rcases List.append_eq_append_iff.1 same with ⟨more, longer, split⟩ | ⟨more, longer, split⟩
  · have none : more = [] := List.eq_nil_iff_forall_not_mem.2 fun b mem => by
      have in_symbols : b ∈ symbols := longer ▸ List.mem_append_right s mem
      have in_pad : b ∈ pad := split ▸ List.mem_append_left fill mem
      exact plain b in_symbols (padded b in_pad)
    subst none
    exact ⟨[], by simpa using longer.symm, by simpa using split.symm⟩
  · exact ⟨more, longer, split⟩

theorem decodeFrom_padding {place : Nat} {rest bytes : Bytes} :
    decodeFrom place (padding :: rest) ≠ .ok bytes := by
  intro decoded
  rcases decodeFrom_cases decoded with ⟨-, last⟩ | found
  · obtain ⟨symbols, fill, split, -, vs, carry, enough, -⟩ :=
      exists_ends_of_decodeLast (by simp) last
    cases symbols with
    | nil => exact absurd enough (by decide)
    | cons b symbols =>
      exact ne_padding_of_values carry b List.mem_cons_self (List.cons.inj split).1.symm
  · obtain ⟨a, b, c, d, vs, behind, bytes', split, -, carry, -⟩ := found
    exact ne_padding_of_values carry a List.mem_cons_self (List.cons.inj split).1.symm

/-- What is decoded with padding is decoded without it. -/
theorem decodeFrom_of_append {place : Nat} {s pad bytes : Bytes} (padded : ∀ b ∈ pad, b = padding)
    (decoded : decodeFrom place (s ++ pad) = .ok bytes) : decodeFrom place s = .ok bytes := by
  induction n : s.length using Nat.strongRecOn generalizing place s bytes with
  | ind n ih =>
    subst n
    by_cases none : pad = []
    · rwa [none, List.append_nil] at decoded
    rcases decodeFrom_cases decoded with ⟨short, last⟩ | found
    · obtain ⟨symbols, fill, split, only_padding, ends⟩ :=
        exists_ends_of_decodeLast (by simp [none]) last
      have carry := ends.choose_spec.1
      obtain ⟨more, rfl, rfl⟩ := append_padding_cases (ne_padding_of_values carry) padded split
      have few : (symbols ++ more).length ≤ 4 := by
        rw [List.length_append] at short
        omega
      rw [decodeFrom_short few]
      exact decodeLast_of_ends ends fun b mem => only_padding b (List.mem_append_left pad mem)
    · obtain ⟨a, b, c, d, vs, behind, bytes', split, some_byte, carry, behind_decoded, rfl⟩ := found
      have group : s ++ pad = [a, b, c, d] ++ behind := split
      obtain ⟨more, rfl, rfl⟩ := append_padding_cases (ne_padding_of_values carry) padded group
      cases more with
      | nil =>
        -- Behind the group there would be nothing but padding.
        cases pad with
        | nil => exact absurd rfl none
        | cons p pad =>
          obtain rfl := padded p List.mem_cons_self
          exact absurd behind_decoded decodeFrom_padding
      | cons e more =>
        have shorter : (e :: more).length < ([a, b, c, d] ++ e :: more).length := by simp
        exact decodeFrom_group carry (by simp) (ih _ shorter behind_decoded rfl)

theorem decode_of_append {s pad bytes : Bytes} (padded : ∀ b ∈ pad, b = padding)
    (decoded : decode (s ++ pad) = .ok bytes) : decode s = .ok bytes :=
  (decode_eq_ok_iff _ _).2 (decodeFrom_of_append padded ((decode_eq_ok_iff _ _).1 decoded))

/-! ## Exchanged symbols -/

/-- The bytes are the same, or symbols for the same bits in the two alphabets. -/
def Interchangeable (b b' : UInt8) : Prop :=
  b = b' ∨ (b = 43 ∧ b' = 45) ∨ (b = 45 ∧ b' = 43) ∨ (b = 47 ∧ b' = 95) ∨ (b = 95 ∧ b' = 47)

theorem Interchangeable.safe_eq {b b' : UInt8} (h : Interchangeable b b') : safe b = safe b' := by
  rcases h with rfl | ⟨rfl, rfl⟩ | ⟨rfl, rfl⟩ | ⟨rfl, rfl⟩ | ⟨rfl, rfl⟩ <;> rfl

theorem map_safe_eq {s s' : Bytes} (h : List.Forall₂ Interchangeable s s') :
    s.map safe = s'.map safe := by
  induction h with
  | nil => rfl
  | cons same _ ih => rw [List.map_cons, List.map_cons, same.safe_eq, ih]

end FlagHost.Base64

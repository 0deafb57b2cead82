import FlagHost.Proofs.Boundaries
import FlagHost.Proofs.Spans
import FlagHost.Url.Basic

/-!
# What the parts of an address stand for

A text is split into pieces at a separator, and a piece stands for the bytes that its percent signs
write. `readPairs` reads a query as a form: pairs with ampersands between them, and plus signs for
blanks. Main statements: a part that was encoded stands for what it was made of, provided that the
percent sign itself is encoded or absent, and the pairs put in a query are the ones read from it.
-/

namespace FlagHost.Url

/-! ## Lists of readings -/

section Readings

variable {α β γ : Type} {l : List α}

/-- What is written one by one is read one by one. -/
theorem mapM_map_eq_some {f : β → Option γ} {g : α → β} {h : α → γ}
    (reads : ∀ a ∈ l, f (g a) = some (h a)) : (l.map g).mapM f = some (l.map h) := by
  induction l with
  | nil => rfl
  | cons a l ih =>
    obtain ⟨first, rest⟩ := List.forall_mem_cons.1 reads
    rw [List.map_cons, List.mapM_cons, first, ih rest]
    rfl

theorem exists_mem_of_mapM {f : α → Option β} {m : List β} (read : l.mapM f = some m) {a : α}
    (mem : a ∈ l) : ∃ b ∈ m, f a = some b := by
  induction l generalizing m with
  | nil => exact nomatch mem
  | cons first l ih =>
    rw [List.mapM_cons] at read
    obtain ⟨b, here, read⟩ := Option.bind_eq_some_iff.1 read
    obtain ⟨rest, there, read⟩ := Option.bind_eq_some_iff.1 read
    obtain rfl := Option.some.inj read
    rcases List.mem_cons.1 mem with rfl | mem
    · exact ⟨b, List.mem_cons_self, here⟩
    · obtain ⟨b', known, found⟩ := ih there mem
      exact ⟨b', List.mem_cons_of_mem _ known, found⟩

end Readings

/-! ## Pieces -/

section Pieces

variable {separator : Char} {piece : List Char}

theorem exists_pieces_eq (separator : Char) (cs : List Char) :
    ∃ first rest, pieces separator cs = first :: rest := by
  cases cs with
  | nil => exact ⟨_, _, rfl⟩
  | cons c cs =>
    unfold pieces
    split
    · exact ⟨_, _, rfl⟩
    · split <;> exact ⟨_, _, rfl⟩

theorem pieces_cons_separator (separator : Char) (cs : List Char) :
    pieces separator (separator :: cs) = [] :: pieces separator cs := by
  obtain ⟨first, rest, found⟩ := exists_pieces_eq separator cs
  rw [pieces, found]
  exact if_pos rfl

theorem pieces_cons_of_ne {c : Char} (other : c ≠ separator) {cs first : List Char}
    {rest : List (List Char)} (found : pieces separator cs = first :: rest) :
    pieces separator (c :: cs) = (c :: first) :: rest := by
  rw [pieces, found]
  exact if_neg other

theorem pieces_of_not_mem (whole : separator ∉ piece) : pieces separator piece = [piece] := by
  induction piece with
  | nil => rfl
  | cons c piece ih =>
    obtain ⟨other, rest⟩ := not_or.1 (mt List.mem_cons.2 whole)
    exact pieces_cons_of_ne (Ne.symm other) (ih rest)

theorem pieces_append (whole : separator ∉ piece) (cs : List Char) :
    pieces separator (piece ++ separator :: cs) = piece :: pieces separator cs := by
  induction piece with
  | nil => exact pieces_cons_separator separator cs
  | cons c piece ih =>
    obtain ⟨other, rest⟩ := not_or.1 (mt List.mem_cons.2 whole)
    exact pieces_cons_of_ne (Ne.symm other) (ih rest)

/-- Pieces with a separator in front of each are found again. -/
theorem pieces_flatMap {first : List Char} {rest : List (List Char)} (whole : separator ∉ first)
    (rest_whole : ∀ piece ∈ rest, separator ∉ piece) :
    pieces separator (first ++ rest.flatMap (separator :: ·)) = first :: rest := by
  induction rest generalizing first with
  | nil => rw [List.flatMap_nil, List.append_nil, pieces_of_not_mem whole]
  | cons next rest ih =>
    obtain ⟨next_whole, rest_whole⟩ := List.forall_mem_cons.1 rest_whole
    rw [List.flatMap_cons, List.cons_append, pieces_append whole, ih next_whole rest_whole]

/-- What is no separator is in one of the pieces. -/
theorem exists_mem_pieces {c : Char} (other : c ≠ separator) {cs : List Char} (mem : c ∈ cs) :
    ∃ piece ∈ pieces separator cs, c ∈ piece := by
  induction cs with
  | nil => exact nomatch mem
  | cons d cs ih =>
    obtain ⟨first, rest, found⟩ := exists_pieces_eq separator cs
    by_cases at_mark : d = separator
    · subst at_mark
      rw [pieces_cons_separator]
      obtain ⟨piece, known, inside⟩ := ih ((List.mem_cons.1 mem).resolve_left other)
      exact ⟨piece, List.mem_cons_of_mem _ known, inside⟩
    · rw [pieces_cons_of_ne at_mark found]
      rcases List.mem_cons.1 mem with rfl | mem
      · exact ⟨_, List.mem_cons_self, List.mem_cons_self⟩
      · obtain ⟨piece, known, inside⟩ := ih mem
        rw [found] at known
        rcases List.mem_cons.1 known with rfl | known
        · exact ⟨_, List.mem_cons_self, List.mem_cons_of_mem _ inside⟩
        · exact ⟨piece, List.mem_cons_of_mem _ known, inside⟩

end Pieces

theorem splitOn?_append {p : Char → Bool} {front : List Char} (outside : ∀ c ∈ front, p c = false)
    {mark : Char} (is_mark : p mark = true) (behind : List Char) :
    splitOn? p (front ++ mark :: behind) = (front, some behind) := by
  have taken : (front ++ mark :: behind).takeWhile (fun c => !p c) = front := by
    refine takeWhile_append_of_stop (fun c mem => by simp [outside c mem]) fun c mem => ?_
    obtain rfl := Option.some.inj mem
    simp [is_mark]
  simp only [splitOn?, taken, List.drop_left]
  rfl

theorem splitOn?_of_outside {p : Char → Bool} {cs : List Char} (outside : ∀ c ∈ cs, p c = false) :
    splitOn? p cs = (cs, none) := by
  have taken : cs.takeWhile (fun c => !p c) = cs :=
    List.takeWhile_eq_self_iff.2 fun c mem => by simp [outside c mem]
  simp only [splitOn?, taken, List.drop_length]
  rfl

/-! ## Percent signs -/

theorem percentDecode_cons {b : UInt8} (other : b ≠ 37) (rest : Bytes) :
    percentDecode (b :: rest) = b :: percentDecode rest := by
  have unmarked : (b == 37) = false := beq_eq_false_iff_ne.2 other
  match rest with
  | [] => rfl
  | [_] => rfl
  | _ :: _ :: _ => rw [percentDecode, unmarked]

theorem percentDecode_escape {h l : UInt8} {high low : Nat} (first : Digit.hex? h.toNat = some high)
    (second : Digit.hex? l.toNat = some low) (rest : Bytes) :
    percentDecode (37 :: h :: l :: rest) =
      UInt8.ofNat (16 * high + low) :: percentDecode rest := by
  rw [percentDecode, first, second]
  rfl

/-- A byte behind, which is no digit, changes nothing that is decoded in front of it. -/
theorem percentDecode_snoc {b : UInt8} (other : b ≠ 37) (no_digit : Digit.hex? b.toNat = none)
    (bytes : Bytes) : percentDecode (bytes ++ [b]) = percentDecode bytes ++ [b] := by
  have unmarked : (b == 37) = false := beq_eq_false_iff_ne.2 other
  match bytes with
  | [] => rfl
  | [_] => rfl
  | [a, h] =>
    rw [List.cons_append, List.cons_append, List.nil_append, percentDecode, no_digit]
    cases a == 37 <;> cases Digit.hex? h.toNat <;> rfl
  | a :: h :: l :: rest =>
    have later := percentDecode_snoc other no_digit (h :: l :: rest)
    have behind := percentDecode_snoc other no_digit rest
    simp only [List.cons_append] at later ⊢
    rw [percentDecode, percentDecode]
    split
    · rw [behind, List.cons_append]
    · rw [later, List.cons_append]

/-- The byte of a digit. -/
theorem hexCapital_cases {n : Nat} (digit : n < 16) :
    Utf8.encodeChar (hexCapital n) = [UInt8.ofNat (hexCapital n).toNat] ∧
      Digit.hex? (UInt8.ofNat (hexCapital n).toNat).toNat = some n ∧
      (hexCapital n).isAlphanum = true := by
  revert n
  decide +kernel

theorem percentDecode_percentByte (b : UInt8) (rest : Bytes) :
    percentDecode (Utf8.encode (percentByte b) ++ rest) = b :: percentDecode rest := by
  have byte := b.toNat_lt
  obtain ⟨high_byte, high, -⟩ := hexCapital_cases (show b.toNat / 16 < 16 by omega)
  obtain ⟨low_byte, low, -⟩ := hexCapital_cases (show b.toNat % 16 < 16 by omega)
  have bytes : Utf8.encode (percentByte b) =
      [37, UInt8.ofNat (hexCapital (b.toNat / 16)).toNat,
        UInt8.ofNat (hexCapital (b.toNat % 16)).toNat] := by
    rw [percentByte, Utf8.encode_cons, Utf8.encode_cons, Utf8.encode_cons, high_byte, low_byte]
    rfl
  rw [bytes]
  refine (percentDecode_escape high low rest).trans ?_
  rw [Nat.div_add_mod, UInt8.ofNat_toNat]

theorem percentDecode_percentBytes (bytes rest : Bytes) :
    percentDecode (Utf8.encode (bytes.flatMap percentByte) ++ rest) =
      bytes ++ percentDecode rest := by
  induction bytes with
  | nil => rfl
  | cons b bytes ih =>
    rw [List.flatMap_cons, Utf8.encode_append, List.append_assoc, percentDecode_percentByte, ih]
    rfl

/-- A character stands for its bytes, escaped or not. -/
theorem percentDecode_percentChar {escaped : Char → Bool} {c : Char}
    (unmarked : c ≠ '%' ∨ escaped '%' = true) (rest : Bytes) :
    percentDecode (Utf8.encode (percentChar escaped c) ++ rest) =
      Utf8.encodeChar c ++ percentDecode rest := by
  unfold percentChar
  split
  · next plain =>
    obtain ⟨small, unescaped⟩ := plain
    have other : c ≠ '%' := by
      rintro rfl
      rcases unmarked with other | escapes
      · exact other rfl
      · simp [escapes] at unescaped
    have byte : Utf8.encodeChar c = [UInt8.ofNat c.toNat] := if_pos small
    have no_mark : UInt8.ofNat c.toNat ≠ 37 := by
      intro same
      have point : c.toNat = 37 := by
        have := congrArg UInt8.toNat same
        simp only [UInt8.toNat_ofNat'] at this
        change c.toNat % 256 = 37 at this
        omega
      exact other (Char.toNat_inj.1 point)
    rw [Utf8.encode_cons, byte]
    exact percentDecode_cons no_mark rest
  · exact percentDecode_percentBytes _ rest

/-- Encoded characters stand for their bytes. -/
theorem percentDecode_percentEncode {escaped : Char → Bool} {cs : List Char}
    (unmarked : '%' ∉ cs ∨ escaped '%' = true) :
    percentDecode (Utf8.encode (percentEncode escaped cs)) = Utf8.encode cs := by
  induction cs with
  | nil => rfl
  | cons c cs ih =>
    have first : c ≠ '%' ∨ escaped '%' = true :=
      unmarked.imp_left fun absent same => absent (same ▸ List.mem_cons_self)
    have rest : '%' ∉ cs ∨ escaped '%' = true :=
      unmarked.imp_left fun absent mem => absent (List.mem_cons_of_mem _ mem)
    have split : percentEncode escaped (c :: cs) =
        percentChar escaped c ++ percentEncode escaped cs := List.flatMap_cons
    rw [split, Utf8.encode_append, percentDecode_percentChar first, ih rest, Utf8.encode_cons]

/-- What stands in an encoded character: itself, or a percent sign and digits. -/
theorem mem_percentChar {escaped : Char → Bool} {c d : Char} (mem : d ∈ percentChar escaped c) :
    d = c ∧ escaped c = false ∨ d = '%' ∨ d.isAlphanum = true := by
  unfold percentChar at mem
  split at mem
  · next plain => exact .inl ⟨List.mem_singleton.1 mem, by simpa using plain.2⟩
  · obtain ⟨b, -, mem⟩ := List.mem_flatMap.1 mem
    have byte := b.toNat_lt
    simp only [percentByte, List.mem_cons, List.not_mem_nil, or_false] at mem
    rcases mem with rfl | rfl | rfl
    · exact .inr (.inl rfl)
    · exact .inr (.inr (hexCapital_cases (by omega)).2.2)
    · exact .inr (.inr (hexCapital_cases (by omega)).2.2)

/-- A character that is no digit and no percent sign stands in what is encoded only if it stood
there before, and is not escaped. -/
theorem mem_of_mem_percentEncode {escaped : Char → Bool} {cs : List Char} {d : Char}
    (other : d ≠ '%') (no_digit : d.isAlphanum = false) (mem : d ∈ percentEncode escaped cs) :
    d ∈ cs ∧ escaped d = false := by
  obtain ⟨c, known, mem⟩ := List.mem_flatMap.1 mem
  rcases mem_percentChar mem with ⟨rfl, unescaped⟩ | marked | digit
  · exact ⟨known, unescaped⟩
  · exact absurd marked other
  · exact nomatch no_digit.symm.trans digit

/-! ## Forms -/

/-- A plus sign is a blank. -/
def plusToBlank (c : Char) : Char := if c = '+' then ' ' else c

/-- The text that a name or value of a form stands for. -/
def formText? (cs : List Char) : Option String :=
  Utf8.text? (percentDecode (Utf8.encode (cs.map plusToBlank)))

/-- Reads a name and a value. -/
def readPair (cs : List Char) : Option (String × String) :=
  let (name, value) := splitOn? (· = '=') cs
  match formText? name, formText? (value.getD []) with
  | some name, some value => some (name, value)
  | _, _ => none

/-- Reads a query as a form. -/
def readPairs (query : List Char) : Option (List (String × String)) :=
  ((pieces '&' query).filter (!·.isEmpty)).mapM readPair

theorem plusToBlank_percentChar (c : Char) :
    (percentChar (!plainInPair ·) c).map plusToBlank = percentChar (!plainInPair ·) c := by
  refine (List.map_congr_left fun d mem => ?_).trans (List.map_id _)
  refine if_neg ?_
  rintro rfl
  rcases mem_percentChar mem with ⟨rfl, plain⟩ | marked | digit
  · exact absurd plain (by decide)
  · exact absurd marked (by decide)
  · exact absurd digit (by decide)

theorem formText?_formEncode (text : String) : formText? (formEncode text.toList) = some text := by
  have bytes (cs : List Char) :
      percentDecode (Utf8.encode ((formEncode cs).map plusToBlank)) = Utf8.encode cs := by
    induction cs with
    | nil => rfl
    | cons c cs ih =>
      rw [formEncode, List.flatMap_cons, List.map_append, Utf8.encode_append, Utf8.encode_cons]
      split
      · next blank =>
        subst blank
        exact (percentDecode_cons (by decide) _).trans (congrArg _ ih)
      · rw [plusToBlank_percentChar, percentDecode_percentChar (.inr rfl)]
        exact congrArg _ ih
  rw [formText?, bytes, Utf8.text?_encode, String.ofList_toList]

theorem not_mem_formEncode {d : Char} (no_plus : d ≠ '+') (no_mark : d ≠ '%')
    (escaped : plainInPair d = false) (no_digit : d.isAlphanum = false) (cs : List Char) :
    d ∉ formEncode cs := by
  intro mem
  obtain ⟨c, -, mem⟩ := List.mem_flatMap.1 mem
  split at mem
  · exact no_plus (List.mem_singleton.1 mem)
  · rcases mem_percentChar mem with ⟨rfl, plain⟩ | marked | digit
    · simp [escaped] at plain
    · exact no_mark marked
    · exact nomatch no_digit.symm.trans digit

/-- A pair as it is written. -/
def writePair (pair : String × String) : List Char :=
  formEncode pair.1.toList ++ '=' :: formEncode pair.2.toList

theorem readPair_writePair (pair : String × String) : readPair (writePair pair) = some pair := by
  have outside : ∀ c ∈ formEncode pair.1.toList, decide (c = '=') = false := by
    intro c mem
    refine decide_eq_false fun same => ?_
    exact not_mem_formEncode (by decide) (by decide) (by decide) (by decide) _ (same ▸ mem)
  have split := splitOn?_append outside (decide_eq_true (rfl : '=' = '='))
    (formEncode pair.2.toList)
  simp only [readPair, writePair, split, Option.getD_some, formText?_formEncode]

theorem appendPairs_some (query : List Char) (some_before : query ≠ [])
    (pairs : List (String × String)) :
    appendPairs query pairs = query ++ pairs.flatMap fun pair => '&' :: writePair pair := by
  induction pairs generalizing query with
  | nil => exact (List.append_nil query).symm
  | cons pair pairs ih =>
    have step : appendPairs query (pair :: pairs) =
        appendPairs (query ++ '&' :: writePair pair) pairs := by
      simp [appendPairs, writePair, some_before]
    rw [step, ih _ (by simp), List.flatMap_cons, List.append_assoc]

theorem appendPairs_nil_cons (pair : String × String) (pairs : List (String × String)) :
    appendPairs [] (pair :: pairs) =
      writePair pair ++ pairs.flatMap fun pair => '&' :: writePair pair := by
  have step : appendPairs [] (pair :: pairs) = appendPairs (writePair pair) pairs := by
    simp [appendPairs, writePair]
  rw [step, appendPairs_some _ (by simp [writePair])]

/-- The pairs of a form are read as they were put there. -/
theorem readPairs_appendPairs (pairs : List (String × String)) :
    readPairs (appendPairs [] pairs) = some pairs := by
  cases pairs with
  | nil => rfl
  | cons pair pairs =>
    have whole (pair : String × String) : '&' ∉ writePair pair := by
      have absent (cs : List Char) : '&' ∉ formEncode cs :=
        not_mem_formEncode (by decide) (by decide) (by decide) (by decide) cs
      simp [writePair, absent]
    have found : pieces '&' (appendPairs [] (pair :: pairs)) = (pair :: pairs).map writePair := by
      have rest_whole : ∀ piece ∈ pairs.map writePair, '&' ∉ piece := by
        intro piece mem
        obtain ⟨pair, -, rfl⟩ := List.mem_map.1 mem
        exact whole pair
      have := pieces_flatMap (whole pair) rest_whole
      rw [List.flatMap_map] at this
      rw [appendPairs_nil_cons, this, List.map_cons]
    have kept : ((pair :: pairs).map writePair).filter (!·.isEmpty) =
        (pair :: pairs).map writePair := by
      refine List.filter_eq_self.2 fun cs mem => ?_
      obtain ⟨pair, -, rfl⟩ := List.mem_map.1 mem
      simp [writePair]
    rw [readPairs, found, kept, mapM_map_eq_some fun pair _ => readPair_writePair pair,
      List.map_id']

end FlagHost.Url

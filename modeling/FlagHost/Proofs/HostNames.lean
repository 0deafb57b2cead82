import FlagHost.Proofs.AddressTexts
import FlagHost.Proofs.PercentCoding

/-!
# Names of hosts

What is read as the name of a host may be decoded, folded and encoded, but no step of this makes a
blank go away. Main statement: a host that ends in a blank, and a port that does, cannot be read.
-/

namespace FlagHost.Url

/-! ## Labels -/

section Punycode

open Punycode

theorem mem_pass {basic n : Nat} {w : Writer} {c d : Char} (mem : d ∈ w.written) :
    d ∈ (w.pass basic n c).written := by
  unfold Writer.pass
  split
  · exact mem
  · split
    · exact List.mem_append_left _ mem
    · exact mem

theorem mem_foldl_pass {basic n : Nat} {d : Char} (label : List Char) {w : Writer}
    (mem : d ∈ w.written) : d ∈ (label.foldl (Writer.pass basic n) w).written := by
  induction label generalizing w with
  | nil => exact mem
  | cons c label ih => exact ih (mem_pass mem)

theorem mem_place {label : List Char} {basic : Nat} {d : Char} (points : List Nat) {n : Nat}
    {w : Writer} (mem : d ∈ w.written) : d ∈ (Writer.place label basic n points w).written := by
  induction points generalizing n w with
  | nil => exact mem
  | cons m points ih => exact ih (mem_foldl_pass label mem)

/-- The ASCII characters of a label are in its code. -/
theorem mem_encode {label : List Char} {c : Char} (mem : c ∈ label) (small : c.toNat < 0x80) :
    c ∈ encode label := by
  have plain : c ∈ label.filter fun c => c.toNat < 0x80 := List.mem_filter.2 ⟨mem, by simpa⟩
  have some_plain : (label.filter fun c => c.toNat < 0x80).isEmpty = false :=
    List.isEmpty_eq_false_iff.2 (List.ne_nil_of_mem plain)
  refine mem_place _ ?_
  simp only [some_plain]
  exact List.mem_append_left _ plain

end Punycode

theorem mem_asciiLabel? {label ascii : List Char} (read : asciiLabel? label = some ascii) {c : Char}
    (mem : c ∈ label) (small : c.toNat < 0x80) : c ∈ ascii := by
  unfold asciiLabel? at read
  dsimp only at read
  split at read
  · -- An ASCII label is read as it is, or not at all.
    suffices same : label = ascii from same ▸ mem
    split at read
    · split at read
      · exact nomatch read
      · split at read
        · exact Option.some.inj read
        · exact nomatch read
    · exact Option.some.inj read
  · split at read
    · obtain rfl := Option.some.inj read
      exact List.mem_append_right _ (mem_encode mem small)
    · exact nomatch read

theorem small_of_isBlank {c : Char} (blank : isBlank c = true) : c.toNat ≤ 0x20 :=
  of_decide_eq_true blank

/-- There are few blanks, and none of them is written otherwise or may stand in a name. -/
theorem blank_cases {c : Char} (blank : isBlank c = true) :
    c.toLower = c ∧ forbiddenInDomain c = true ∧ Digit.hex? c.toNat = none ∧
      c ∉ ".:[]@|/?#\\".toList := by
  have all : ∀ n ≤ 0x20, (Char.ofNat n).toLower = Char.ofNat n ∧
      forbiddenInDomain (Char.ofNat n) = true ∧ Digit.hex? (Char.ofNat n).toNat = none ∧
      Char.ofNat n ∉ ".:[]@|/?#\\".toList := by
    decide +kernel
  have := all c.toNat (small_of_isBlank blank)
  rwa [Char.ofNat_toNat] at this

theorem ne_of_isBlank {c d : Char} (blank : isBlank c = true) (mark : d ∈ ".:[]@|/?#\\".toList) :
    c ≠ d := by
  rintro rfl
  exact (blank_cases blank).2.2.2 mark

/-- A blank is read as itself. -/
theorem domainChar_of_isBlank {c : Char} (blank : isBlank c = true) : domainChar c = [c] := by
  have small := small_of_isBlank blank
  have not_between {lo hi : Nat} (above : 0x20 < lo) : isBetween lo hi c = false := by
    simp only [isBetween, Bool.and_eq_false_imp, decide_eq_true_eq]
    omega
  have narrow : Unicode.lowerChar c = [c] := by
    rw [Unicode.lowerChar, if_pos (by omega), (blank_cases blank).1]
  have other {n : Nat} (above : 0x20 < n) : c.toNat ≠ n := by omega
  simp [domainChar, domainChar.ignored, not_between, other, narrow]

theorem mem_intercalate {label : List Char} {labels : List (List Char)} (known : label ∈ labels)
    {c : Char} (mem : c ∈ label) (separator : List Char) : c ∈ separator.intercalate labels := by
  induction labels with
  | nil => exact nomatch known
  | cons first rest ih =>
    cases rest with
    | nil => simp_all
    | cons second rest =>
      rw [List.intercalate_cons_cons]
      rcases List.mem_cons.1 known with rfl | known
      · exact List.mem_append_left _ (List.mem_append_left _ mem)
      · exact List.mem_append_right _ (ih known)

/-- No name of a host has a blank. -/
theorem domain?_eq_none {name : List Char} {c : Char} (mem : c ∈ name) (blank : isBlank c = true) :
    domain? name = none := by
  have folded : c ∈ name.flatMap domainChar :=
    List.mem_flatMap.2 ⟨c, mem, by simp [domainChar_of_isBlank blank]⟩
  obtain ⟨label, known, inside⟩ :=
    exists_mem_pieces (ne_of_isBlank blank (show '.' ∈ _ by decide)) folded
  unfold domain?
  cases read : (pieces '.' (name.flatMap domainChar)).mapM asciiLabel? with
  | none => rfl
  | some labels =>
    obtain ⟨ascii, known, found⟩ := exists_mem_of_mapM read known
    have small := small_of_isBlank blank
    have kept : c ∈ ['.'].intercalate labels :=
      mem_intercalate known (mem_asciiLabel? found inside (by omega)) _
    have forbidden : (['.'].intercalate labels).any forbiddenInDomain = true :=
      List.any_eq_true.2 ⟨c, kept, (blank_cases blank).2.1⟩
    exact if_pos (by rw [forbidden, Bool.true_or])

/-! ## Hosts -/

/-- A blank is no part of what percent signs write. -/
theorem percentDecode_snoc_blank {c : Char} (blank : isBlank c = true) (cs : List Char) :
    percentDecode (Utf8.encode (cs ++ [c])) =
      percentDecode (Utf8.encode cs) ++ Utf8.encode [c] := by
  have small := small_of_isBlank blank
  have byte : Utf8.encode [c] = [UInt8.ofNat c.toNat] := by
    rw [Utf8.encode_cons]
    exact congrArg (· ++ _) (if_pos (by omega))
  have value : (UInt8.ofNat c.toNat).toNat = c.toNat := by
    rw [UInt8.toNat_ofNat']
    omega
  have unmarked : UInt8.ofNat c.toNat ≠ 37 := by
    intro same
    have : c.toNat = 37 := value.symm.trans (congrArg UInt8.toNat same)
    omega
  rw [Utf8.encode_append, byte, percentDecode_snoc unmarked]
  rw [value, (blank_cases blank).2.2.1]

theorem webHost?_eq_none {c : Char} (blank : isBlank c = true) (cs : List Char) :
    webHost? (cs ++ [c]) = none := by
  unfold webHost?
  split
  · next rest same =>
    -- The number in brackets would have to end with a bracket.
    have last : ('[' :: rest).getLast? = some c := by rw [← same, List.getLast?_concat]
    have open_end : rest.getLast? ≠ some ']' := by
      intro closed
      rw [List.getLast?_cons, closed] at last
      exact ne_of_isBlank blank (show ']' ∈ _ by decide) (Option.some.inj last).symm
    exact if_neg open_end
  · -- A blank is still there when the percent signs are decoded.
    cases read : Utf8.text? (percentDecode (Utf8.encode (cs ++ [c]))) with
    | none => rfl
    | some text =>
      have bytes := (Utf8.text?_eq_some_iff _ _).1 read
      rw [percentDecode_snoc_blank blank] at bytes
      have kept : c ∈ text.toList :=
        ((Utf8.encode_isSuffix_iff [c] text.toList).1 ⟨_, bytes⟩).mem List.mem_cons_self
      change (domain? text.toList).bind _ = none
      rw [domain?_eq_none kept blank]
      rfl

/-! ## Ports -/

theorem port?_eq_none {c : Char} (blank : isBlank c = true) (scheme : String) (cs : List Char) :
    port? scheme (cs ++ [c]) = none := by
  have no_digit : Digit.below? 10 c = none := by
    rw [Digit.below?, (blank_cases blank).2.2.1]
    rfl
  have no_number : Digit.number? 10 (cs ++ [c]) = none := by
    rw [Digit.number?, List.foldlM_append]
    cases cs.foldlM (fun n c => (Digit.below? 10 c).map (10 * n + ·)) 0 with
    | none => rfl
    | some n => simp [no_digit]
  rw [port?, no_number, if_neg (by simp)]
  rfl

/-- The last character of a host with a port is the last one of either. -/
theorem splitPort_append {c : Char} (other : c ≠ ':') (inBrackets : Bool) (cs : List Char) :
    (∃ host, splitPort inBrackets (cs ++ [c]) = (host ++ [c], [])) ∨
      ∃ host port, splitPort inBrackets (cs ++ [c]) = (host, port ++ [c]) := by
  induction cs generalizing inBrackets with
  | nil => exact .inl ⟨[], by simp [splitPort, other]⟩
  | cons d cs ih =>
    rw [List.cons_append, splitPort]
    split
    · exact .inr ⟨[], cs, rfl⟩
    · rcases ih (d = '[' || (inBrackets && d ≠ ']')) with ⟨host, split⟩ | ⟨host, port, split⟩
      · exact .inl ⟨d :: host, by rw [split]; rfl⟩
      · exact .inr ⟨d :: host, port, by rw [split]⟩

/-- No host of the web and no port ends in a blank. -/
theorem authority?_eq_none {scheme : String} (special : isSpecial scheme = true) {c : Char}
    (blank : isBlank c = true) (cs : List Char) : authority? scheme (cs ++ [c]) = none := by
  have behind : (withoutUser (cs ++ [c])).1 = (cs.reverse.takeWhile (· ≠ '@')).reverse ++ [c] := by
    have other := ne_of_isBlank blank (show '@' ∈ _ by decide)
    simp [withoutUser, other]
  unfold authority?
  dsimp only
  rw [behind, special]
  generalize (cs.reverse.takeWhile (· ≠ '@')).reverse = front
  rcases splitPort_append (ne_of_isBlank blank (show ':' ∈ _ by decide)) false front with
    ⟨host, split⟩ | ⟨host, port, split⟩
  · rw [split, webHost?_eq_none blank]
    simp
  · rw [split, port?_eq_none blank]
    split
    · rfl
    · cases webHost? host <;> rfl

end FlagHost.Url

import FlagHost.Json.Skip
import FlagHost.Proofs.Outcome
import FlagHost.Proofs.Spans
import FlagHost.Proofs.Spelling

/-!
# What is skipped

`Written .value s` says by the grammar of documents that the bytes `s` write a value: nested to any
depth, with numbers of any size, and with blanks wherever they may stand. Main statement: every such
value is passed as a whole, whatever comes behind it.
-/

namespace FlagHost.Json

/-! ## Blanks -/

/-- Nothing but blanks. -/
def Blank (s : Bytes) : Prop := ∀ b ∈ s, isBlankByte b

theorem Blank.nil : Blank [] := fun _ mem => nomatch mem

theorem Blank.skipBlanks_append {blanks : Bytes} (h : Blank blanks) (rest : Bytes) :
    skipBlanks (blanks ++ rest) = skipBlanks rest :=
  List.dropWhile_append_of_pos h

theorem skipBlanks_of_first {b : UInt8} (first : isBlankByte b = false) (rest : Bytes) :
    skipBlanks (b :: rest) = b :: rest :=
  List.dropWhile_cons_of_neg (by simp [first])

/-- What stands behind blanks. -/
theorem Blank.skipBlanks_cons {blanks : Bytes} (h : Blank blanks) {b : UInt8}
    (first : isBlankByte b = false) (rest : Bytes) :
    skipBlanks (blanks ++ b :: rest) = b :: rest := by
  rw [h.skipBlanks_append, skipBlanks_of_first first]

/-! ## Texts -/

/-- The bytes may stand between the quotes of a text. They need not form characters. -/
inductive TextBody : Bytes → Prop where
  | nil : TextBody []
  | plain {b : UInt8} {s : Bytes} (plain : IsPlain b) (rest : TextBody s) : TextBody (b :: s)
  | short {letter : UInt8} {c : Char} {s : Bytes} (known : (letter, c) ∈ shortEscapes)
      (rest : TextBody s) : TextBody (92 :: letter :: s)
  | number {h₁ h₂ h₃ h₄ : UInt8} {s : Bytes} {n : Nat} (digits : hexNumber? h₁ h₂ h₃ h₄ = some n)
      (rest : TextBody s) : TextBody (92 :: 117 :: h₁ :: h₂ :: h₃ :: h₄ :: s)

theorem skipText_of_textBody {s : Bytes} (h : TextBody s) (rest : Bytes) :
    skipText (s ++ 34 :: rest) = .ok rest := by
  induction h with
  | nil =>
    rw [List.nil_append, skipText.eq_def]
    rfl
  | plain plain _ ih =>
    obtain ⟨visible, quote, backslash⟩ := plain
    rw [List.cons_append, skipText.eq_def]
    dsimp only
    rw [if_neg quote, if_neg backslash, if_neg (UInt8.not_lt.2 visible), ih]
  | short known _ ih =>
    obtain ⟨no_number, b, escaped, -⟩ := escaped?_of_mem known
    rw [List.cons_append, List.cons_append, skipText.eq_def]
    simp [no_number, escaped, ih]
  | number digits _ ih =>
    simp only [List.cons_append]
    rw [skipText.eq_def]
    simp [digits, ih]

/-! ## Numbers -/

theorem toNat_bounds_of_isDigit {b : UInt8} (digit : isDigit b) : 48 ≤ b.toNat ∧ b.toNat ≤ 57 := by
  simpa [isDigit, UInt8.le_iff_toNat_le] using digit

theorem isBlankByte_of_isDigit {b : UInt8} (digit : isDigit b) : isBlankByte b = false := by
  have bounds := toNat_bounds_of_isDigit digit
  simp [isBlankByte, ← UInt8.toNat_inj]
  omega

/-- A digit is no other character. -/
theorem char_ne_of_isDigit {b : UInt8} (digit : isDigit b) {c : Char} (other : c.isDigit = false) :
    Char.ofNat b.toNat ≠ c := by
  intro same
  have bounds := toNat_bounds_of_isDigit digit
  rw [toNat_eq_of_char_eq same] at bounds
  have is_digit : c.isDigit = true := by
    simpa [Char.isDigit, UInt32.le_iff_toNat_le] using bounds
  exact nomatch other.symm.trans is_digit

/-- Nothing but digits. -/
def Digits (s : Bytes) : Prop := ∀ b ∈ s, isDigit b

/-- The digits in front of a point. -/
inductive Whole : Bytes → Prop where
  | zero : Whole [48]
  | digits {b : UInt8} {s : Bytes} (first : isDigit b) (no_zero : b ≠ 48) (rest : Digits s) :
      Whole (b :: s)

/-- A point with digits, or nothing. -/
inductive Fraction : Bytes → Prop where
  | nothing : Fraction []
  | point {b : UInt8} {s : Bytes} (first : isDigit b) (rest : Digits s) : Fraction (46 :: b :: s)

/-- An exponent, or nothing. -/
inductive Exponent : Bytes → Prop where
  | nothing : Exponent []
  | power {letter b : UInt8} {sign s : Bytes} (is_letter : letter = 101 ∨ letter = 69)
      (is_sign : sign = [] ∨ sign = [43] ∨ sign = [45]) (first : isDigit b) (rest : Digits s) :
      Exponent (letter :: sign ++ b :: s)

/-- No number goes on here. -/
def Ended (s : Bytes) : Prop := ∀ b ∈ s.head?, isDigit b = false ∧ b ≠ 46 ∧ b ≠ 101 ∧ b ≠ 69

theorem Ended.nil : Ended [] := fun _ mem => nomatch mem

theorem ended_cons {b : UInt8} (h : isDigit b = false ∧ b ≠ 46 ∧ b ≠ 101 ∧ b ≠ 69) (s : Bytes) :
    Ended (b :: s) := by
  intro c mem
  obtain rfl := Option.some.inj mem
  exact h

theorem Ended.append {s : Bytes} (h : Ended s) (some_byte : s ≠ []) (rest : Bytes) :
    Ended (s ++ rest) := by
  cases s with
  | nil => exact absurd rfl some_byte
  | cons b s => exact ended_cons (h b rfl) _

theorem Ended.digitNext {s : Bytes} (h : Ended s) : digitNext s = false := by
  cases s with
  | nil => rfl
  | cons b s => exact (h b rfl).1

theorem Digits.skipDigits_append {s rest : Bytes} (h : Digits s) (stop : digitNext rest = false) :
    skipDigits (s ++ rest) = rest := by
  refine dropWhile_append_of_stop h fun b mem => ?_
  cases rest with
  | nil => exact nomatch mem
  | cons c rest =>
    obtain rfl := Option.some.inj mem
    exact stop

theorem Exponent.digitNext {s rest : Bytes} (h : Exponent s) (ended : Ended rest) :
    Json.digitNext (s ++ rest) = false := by
  cases h with
  | nothing => exact ended.digitNext
  | power is_letter => rcases is_letter with rfl | rfl <;> rfl

theorem Fraction.digitNext {s rest : Bytes} (h : Fraction s)
    (stop : Json.digitNext rest = false) : Json.digitNext (s ++ rest) = false := by
  cases h with
  | nothing => exact stop
  | point => rfl

theorem skipExponent_append {sign s rest : Bytes} {b : UInt8}
    (is_sign : sign = [] ∨ sign = [43] ∨ sign = [45]) (first : isDigit b) (digits : Digits s)
    (ended : Ended rest) : skipExponent (sign ++ b :: s ++ rest) = .ok rest := by
  have passed : skipDigits (s ++ rest) = rest := digits.skipDigits_append ended.digitNext
  have no_sign : b ≠ 43 ∧ b ≠ 45 := by
    constructor
    · rintro rfl
      exact nomatch first
    · rintro rfl
      exact nomatch first
  rcases is_sign with rfl | rfl | rfl
  · unfold skipExponent
    simp [no_sign, first, passed]
  · simp [skipExponent, first, passed]
  · simp [skipExponent, first, passed]

theorem Exponent.skipScale_append {s rest : Bytes} (h : Exponent s) (ended : Ended rest) :
    skipScale (s ++ rest) = .ok rest := by
  cases h with
  | nothing =>
    cases rest with
    | nil => rfl
    | cons b rest =>
      obtain ⟨-, -, no_e, no_E⟩ := ended b rfl
      simp [skipScale, no_e, no_E]
  | power is_letter is_sign first digits =>
    have passed := skipExponent_append is_sign first digits ended
    rcases is_letter with rfl | rfl
    · exact passed
    · exact passed

theorem skipNumberTail_append {fraction exponent rest : Bytes} (is_fraction : Fraction fraction)
    (is_exponent : Exponent exponent) (ended : Ended rest) :
    skipNumberTail (fraction ++ (exponent ++ rest)) = .ok rest := by
  have passed := is_exponent.skipScale_append ended
  cases is_fraction with
  | nothing =>
    have no_point : ∀ s, exponent ++ rest ≠ 46 :: s := by
      intro s same
      cases is_exponent with
      | nothing => exact (ended 46 (by rw [List.nil_append] at same; rw [same]; rfl)).2.1 rfl
      | power is_letter =>
        rcases is_letter with rfl | rfl <;> exact nomatch (List.cons.inj same).1
    rw [List.nil_append]
    unfold skipNumberTail
    split
    · next s same => exact absurd same (no_point s)
    · exact passed
  | @point b s first digits =>
    have skipped : skipDigits (b :: s ++ (exponent ++ rest)) = exponent ++ rest := by
      refine Digits.skipDigits_append (fun c mem => ?_) (is_exponent.digitNext ended)
      rcases List.mem_cons.1 mem with rfl | mem
      · exact first
      · exact digits c mem
    have digit_next : digitNext (b :: s ++ (exponent ++ rest)) = true := first
    simp only [List.cons_append] at digit_next skipped ⊢
    rw [skipNumberTail, if_pos digit_next, skipped, passed]

theorem skipNumber_append {whole fraction exponent rest : Bytes} (is_whole : Whole whole)
    (is_fraction : Fraction fraction) (is_exponent : Exponent exponent) (ended : Ended rest) :
    skipNumber (whole ++ (fraction ++ (exponent ++ rest))) = .ok rest := by
  have stop := is_fraction.digitNext (is_exponent.digitNext ended)
  have passed := skipNumberTail_append is_fraction is_exponent ended
  cases is_whole with
  | zero => simp [skipNumber, stop, passed]
  | digits first no_zero digits =>
    simp [skipNumber, first, no_zero, digits.skipDigits_append stop, passed]

/-! ## Values -/

namespace Frame

def opening : Frame → UInt8
  | list => 91
  | object => 123

/-- What stands in front of an item: nothing in a list, a name and a colon in an object. -/
inductive Named : Frame → Bytes → Prop where
  | list : Named list []
  | object {before name after : Bytes} (before_blank : Blank before) (body : TextBody name)
      (after_blank : Blank after) : Named object (before ++ 34 :: name ++ 34 :: after ++ [58])

end Frame

/-- What stands between an item and the one before: a comma, unless the item is the first. -/
inductive Separates : Bool → Bytes → Prop where
  | first : Separates true []
  | comma {before : Bytes} (blank : Blank before) : Separates false (before ++ [44])

/-- Parts of documents: a value, or what is left of an open list or object. -/
inductive Part where
  | value
  | rest (frame : Frame) (first : Bool)

/-- The bytes write the part of a document. -/
inductive Written : Part → Bytes → Prop where
  | word {w : String} (known : w ∈ ["null", "true", "false"]) : Written .value (Utf8.ofText w)
  | number {sign whole fraction exponent : Bytes} (is_sign : sign = [] ∨ sign = [45])
      (is_whole : Whole whole) (is_fraction : Fraction fraction) (is_exponent : Exponent exponent) :
      Written .value (sign ++ whole ++ fraction ++ exponent)
  | text {s : Bytes} (body : TextBody s) : Written .value (34 :: s ++ [34])
  | opened {frame : Frame} {s : Bytes} (rest : Written (.rest frame true) s) :
      Written .value (frame.opening :: s)
  | closed (frame : Frame) (first : Bool) {blanks : Bytes} (blank : Blank blanks) :
      Written (.rest frame first) (blanks ++ [frame.closing])
  | item {frame : Frame} {first : Bool} {separator name blanks v s : Bytes}
      (separates : Separates first separator) (named : frame.Named name) (blank : Blank blanks)
      (value : Written .value v) (rest : Written (.rest frame false) s) :
      Written (.rest frame first) (separator ++ name ++ blanks ++ v ++ s)

/-! ## Passing values -/

theorem skipFirst_append_blank {blanks : Bytes} (blank : Blank blanks) (s : Bytes) :
    skipFirst (blanks ++ s) = skipFirst s := by
  unfold skipFirst
  rw [blank.skipBlanks_append]

theorem skipFrom_append_blank {blanks : Bytes} (blank : Blank blanks) (fuel : Nat)
    (frames : List Frame) (s : Bytes) :
    skipFrom (fuel + 1) false frames (blanks ++ s) = skipFrom (fuel + 1) false frames s := by
  simp only [skipFrom, skipFirst_append_blank blank]

theorem skipFirst_digit {b : UInt8} (digit : isDigit b) (s : Bytes) :
    skipFirst (b :: s) = (skipNumber (b :: s)).map (none, ·) := by
  unfold skipFirst
  rw [skipBlanks_of_first (isBlankByte_of_isDigit digit)]
  dsimp only
  split
  iterate 7
    next letter => exact absurd letter (char_ne_of_isDigit digit rfl)
  rw [if_pos digit]

theorem skipFirst_number {sign whole fraction exponent rest : Bytes}
    (is_sign : sign = [] ∨ sign = [45]) (is_whole : Whole whole)
    (is_fraction : Fraction fraction) (is_exponent : Exponent exponent) (ended : Ended rest) :
    skipFirst (sign ++ whole ++ fraction ++ exponent ++ rest) = .ok (none, rest) := by
  have passed := skipNumber_append is_whole is_fraction is_exponent ended
  simp only [List.append_assoc]
  rcases is_sign with rfl | rfl
  · obtain ⟨b, s, rfl, digit⟩ : ∃ b s, whole = b :: s ∧ isDigit b := by
      cases is_whole with
      | zero => exact ⟨_, _, rfl, rfl⟩
      | digits first => exact ⟨_, _, rfl, first⟩
    rw [List.nil_append, List.cons_append, skipFirst_digit digit, ← List.cons_append, passed]
    rfl
  · exact congrArg (Except.map (none, ·)) passed

theorem ofText_null : Utf8.ofText "null" = [110, 117, 108, 108] := by decide +kernel

theorem ofText_true : Utf8.ofText "true" = [116, 114, 117, 101] := by decide +kernel

theorem ofText_false : Utf8.ofText "false" = [102, 97, 108, 115, 101] := by decide +kernel

theorem skipFirst_word {w : String} (known : w ∈ ["null", "true", "false"]) (rest : Bytes) :
    skipFirst (Utf8.ofText w ++ rest) = .ok (none, rest) := by
  simp only [List.mem_cons, List.not_mem_nil, or_false] at known
  rcases known with rfl | rfl | rfl
  · rw [ofText_null]
    rfl
  · rw [ofText_true]
    rfl
  · rw [ofText_false]
    rfl

/-- Skipping gets behind the part in at most as many steps as it has bytes. -/
def Passes : Part → Bytes → Prop
  | .value, s => ∃ steps < s.length, ∀ fuel frames rest, Ended rest →
      skipFrom (fuel + (steps + 1)) false frames (s ++ rest) = skipFrom fuel true frames rest
  | .rest frame true, s => ∃ steps ≤ s.length, ∀ fuel frames rest,
      skipFrom (fuel + (steps + 1)) false frames (frame.opening :: s ++ rest) =
        skipFrom fuel true frames rest
  | .rest frame false, s => Ended s ∧ ∃ steps < s.length, ∀ fuel frames rest,
      skipFrom (fuel + (steps + 1)) true (frame :: frames) (s ++ rest) =
        skipFrom fuel true frames rest

/-- A value that is passed at once. -/
theorem passes_of_skipFirst {s : Bytes} (some_byte : s ≠ [])
    (passed : ∀ rest, Ended rest → skipFirst (s ++ rest) = .ok (none, rest)) :
    Passes .value s := by
  refine ⟨0, List.length_pos_iff.2 some_byte, fun fuel frames rest ended => ?_⟩
  simp only [skipFrom, passed rest ended]
  rfl

theorem skipFirst_opening (frame : Frame) (s : Bytes) :
    skipFirst (frame.opening :: s) = .ok (some frame, s) := by
  cases frame <;> rfl

theorem Frame.isBlankByte_closing (frame : Frame) : isBlankByte frame.closing = false := by
  cases frame <;> rfl

theorem passColon_append {blanks : Bytes} (blank : Blank blanks) (s : Bytes) :
    passColon (blanks ++ 58 :: s) = .ok s := by
  rw [passColon, blank.skipBlanks_cons rfl]
  rfl

theorem Frame.passName_append {frame : Frame} {name : Bytes} (h : frame.Named name) (s : Bytes) :
    frame.passName (name ++ s) = .ok s := by
  cases h with
  | list => rfl
  | @object before name after before_blank body after_blank =>
    have text := skipText_of_textBody body (after ++ 58 :: s)
    have colon := passColon_append after_blank s
    simp only [List.append_assoc, List.cons_append, List.nil_append]
    rw [Frame.passName, before_blank.skipBlanks_cons rfl]
    simp [text, colon, ok_bind]

/-- A value begins with a byte that is no blank and ends no list. -/
theorem Written.first_byte {v : Bytes} (h : Written .value v) :
    ∃ b s, v = b :: s ∧ isBlankByte b = false ∧ b ≠ 93 := by
  have digit {b : UInt8} (digit : isDigit b) : isBlankByte b = false ∧ b ≠ 93 :=
    ⟨isBlankByte_of_isDigit digit, by rintro rfl; exact nomatch digit⟩
  cases h with
  | word known =>
    simp only [List.mem_cons, List.not_mem_nil, or_false] at known
    rcases known with rfl | rfl | rfl
    · exact ⟨110, _, rfl, rfl, by decide⟩
    · exact ⟨116, _, rfl, rfl, by decide⟩
    · exact ⟨102, _, rfl, rfl, by decide⟩
  | number is_sign is_whole =>
    rcases is_sign with rfl | rfl
    · cases is_whole with
      | zero => exact ⟨48, _, rfl, digit rfl⟩
      | digits first => exact ⟨_, _, rfl, digit first⟩
    · exact ⟨45, _, rfl, rfl, by decide⟩
  | text => exact ⟨34, _, rfl, rfl, by decide⟩
  | @opened frame =>
    cases frame
    · exact ⟨91, _, rfl, rfl, by decide⟩
    · exact ⟨123, _, rfl, rfl, by decide⟩

section Steps

variable (frame : Frame) (frames : List Frame) (fuel : Nat) {blanks : Bytes} (blank : Blank blanks)
include blank

theorem skipFrom_opened_closed (rest : Bytes) :
    skipFrom (fuel + 1) false frames (frame.opening :: (blanks ++ frame.closing :: rest)) =
      skipFrom fuel true frames rest := by
  simp [skipFrom, skipFirst_opening, ok_bind, blank.skipBlanks_cons frame.isBlankByte_closing]

theorem skipFrom_closed (rest : Bytes) :
    skipFrom (fuel + 1) true (frame :: frames) (blanks ++ frame.closing :: rest) =
      skipFrom fuel true frames rest := by
  have no_comma : frame.closing ≠ 44 := by cases frame <;> decide
  simp [skipFrom, blank.skipBlanks_cons frame.isBlankByte_closing, no_comma]

variable {frame} {name : Bytes} (named : frame.Named name)
include named

theorem skipFrom_opened_item {v : Bytes} (value : Written .value v) (s : Bytes) :
    skipFrom (fuel + 2) false frames (frame.opening :: (name ++ (blanks ++ (v ++ s)))) =
      skipFrom (fuel + 1) false (frame :: frames) (v ++ s) := by
  obtain ⟨b, r, rfl, no_blank, no_bracket⟩ := value.first_byte
  rw [skipFrom, skipFirst_opening, ok_bind]
  dsimp only
  cases named with
  | list =>
    have first := blank.skipBlanks_cons no_blank (r ++ s)
    rw [List.nil_append, List.cons_append, first]
    dsimp only
    rw [if_neg (show b ≠ Frame.list.closing from no_bracket), Frame.passName, ok_bind]
  | @object before name after before_blank body after_blank =>
    have passed := Frame.passName_append (.object Blank.nil body after_blank)
      (blanks ++ (b :: r ++ s))
    simp only [List.append_assoc, List.cons_append, List.nil_append] at passed ⊢
    rw [before_blank.skipBlanks_cons rfl]
    dsimp only
    rw [if_neg (show (34 : UInt8) ≠ Frame.object.closing by decide), passed, ok_bind,
      skipFrom_append_blank blank]

theorem skipFrom_item {before : Bytes} (before_blank : Blank before) (s : Bytes) :
    skipFrom (fuel + 2) true (frame :: frames)
        (before ++ 44 :: (name ++ (blanks ++ s))) =
      skipFrom (fuel + 1) false (frame :: frames) s := by
  have passed := Frame.passName_append named (blanks ++ s)
  rw [skipFrom, before_blank.skipBlanks_cons rfl]
  simp [passed, ok_bind, skipFrom_append_blank blank]

end Steps

theorem Blank.ended_append {blanks rest : Bytes} (h : Blank blanks) (ended : Ended rest) :
    Ended (blanks ++ rest) := by
  cases blanks with
  | nil => exact ended
  | cons b blanks =>
    refine ended_cons ?_ _
    have first : isBlankByte b := h b List.mem_cons_self
    simp only [isBlankByte, Bool.or_eq_true, beq_iff_eq] at first
    rcases first with ((rfl | rfl) | rfl) | rfl <;> decide

/-- Every part that is written by the grammar is passed. -/
theorem Written.passes {part : Part} {s : Bytes} (h : Written part s) : Passes part s := by
  induction h with
  | @word w known =>
    refine passes_of_skipFirst ?_ fun rest _ => skipFirst_word known rest
    simp only [List.mem_cons, List.not_mem_nil, or_false] at known
    rcases known with rfl | rfl | rfl <;> decide
  | @number sign whole _ _ is_sign is_whole is_fraction is_exponent =>
    have some_byte : whole ≠ [] := by
      rintro rfl
      exact nomatch is_whole
    refine passes_of_skipFirst (by simp [some_byte]) fun rest ended => ?_
    exact skipFirst_number is_sign is_whole is_fraction is_exponent ended
  | @text s body =>
    refine passes_of_skipFirst (by simp) fun rest _ => ?_
    have passed := skipText_of_textBody body rest
    simp only [List.cons_append, List.append_assoc, List.nil_append]
    exact congrArg (Except.map (none, ·)) passed
  | opened _ ih =>
    obtain ⟨steps, few, passed⟩ := ih
    refine ⟨steps, ?_, fun fuel frames rest _ => passed fuel frames rest⟩
    simp only [List.length_cons]
    omega
  | @closed frame first blanks blank =>
    have ended : Ended (blanks ++ [frame.closing]) :=
      blank.ended_append (ended_cons (by cases frame <;> decide) [])
    cases first with
    | true =>
      refine ⟨0, Nat.zero_le _, fun fuel frames rest => ?_⟩
      simpa using skipFrom_opened_closed frame frames fuel blank rest
    | false =>
      refine ⟨ended, 0, by simp, fun fuel frames rest => ?_⟩
      simpa using skipFrom_closed frame frames fuel blank rest
  | @item frame first separator name blanks v s separates named blank value _ value_ih rest_ih =>
    obtain ⟨value_steps, value_few, value_passed⟩ := value_ih
    obtain ⟨ended, rest_steps, rest_few, rest_passed⟩ := rest_ih
    have passed (fuel : Nat) (frames : List Frame) (rest : Bytes) :
        skipFrom (fuel + (rest_steps + 1) + (value_steps + 1)) false (frame :: frames)
            (v ++ (s ++ rest)) =
          skipFrom fuel true frames rest := by
      have some_byte : s ≠ [] := List.length_pos_iff.1 (Nat.zero_lt_of_lt rest_few)
      rw [value_passed _ _ _ (ended.append some_byte rest), rest_passed]
    have count (fuel : Nat) : fuel + (rest_steps + 1 + (value_steps + 1) + 1) =
        fuel + (rest_steps + 1) + value_steps + 2 := by
      omega
    cases separates with
    | first =>
      refine ⟨rest_steps + 1 + (value_steps + 1), ?_, fun fuel frames rest => ?_⟩
      · simp only [List.length_append]
        omega
      · have opened := skipFrom_opened_item frames (fuel + (rest_steps + 1) + value_steps) blank
          named value (s ++ rest)
        rw [count]
        simp only [List.append_assoc, List.nil_append, List.cons_append]
        exact opened.trans (passed fuel frames rest)
    | @comma before before_blank =>
      refine ⟨?_, rest_steps + 1 + (value_steps + 1), ?_, fun fuel frames rest => ?_⟩
      · simp only [List.append_assoc]
        exact before_blank.ended_append (ended_cons (by decide) _)
      · simp only [List.length_append, List.length_cons]
        omega
      · have item := skipFrom_item frames (fuel + (rest_steps + 1) + value_steps) blank
          named before_blank (v ++ (s ++ rest))
        rw [count]
        simp only [List.append_assoc, List.nil_append, List.cons_append]
        exact item.trans (passed fuel frames rest)

/-- A value is skipped, with the blanks in front of it. -/
theorem skipValue_of_written {v blanks rest : Bytes} (h : Written .value v) (blank : Blank blanks)
    (ended : Ended rest) {bounds : Bounds} (short : v.length ≤ bounds.items) :
    skipValue bounds (blanks ++ (v ++ rest)) = .ok rest := by
  obtain ⟨steps, few, passed⟩ := h.passes
  obtain ⟨fuel, split⟩ : ∃ fuel, bounds.items + 1 = fuel + 1 + (steps + 1) :=
    ⟨bounds.items - steps - 1, by omega⟩
  rw [skipValue, skipFrom_append_blank blank, split, passed _ _ _ ended]
  rfl

end FlagHost.Json

import FlagHost.Clause.Operator
import FlagHost.Proofs.Readings
import FlagHost.Proofs.Spanning

/-!
# Patterns and whole attributes

A pattern is put between the marks for the start and the end of a text as it is written, in a group
of its own. Inside of the group it is read as it is read alone, and so the whole attribute has to
match: but for two kinds of patterns. One that has a closing parenthesis too many closes the group,
and what is behind it is no longer between the marks. One that ends in a comment hides the end of
the group and the mark for the end of the text in that comment.

Main statement: `Operator.decides_matchesPattern`, which says what is found for each kind.
-/

namespace FlagHost

namespace Pattern

/-! ## Patterns -/

/-- The expression of a pattern, if it is valid, however large it is. -/
def parse? (pattern : List Char) : Option Piece :=
  (readPieces pattern.length {} pattern).bind fun state =>
    if state.outer.isEmpty then some state.body.whole else none

/-- An expression is within the limits of height and weight. -/
def Piece.Fits (piece : Piece) : Prop :=
  piece.height ≤ heightLimit ∧ piece.regex.isLightEnough = true

instance (piece : Piece) : Decidable piece.Fits := inferInstanceAs (Decidable (_ ∧ _))

/-- An expression between the marks for the start and the end of the text. -/
def Piece.anchored (piece : Piece) : Piece :=
  ⟨.seq (.atom (.look .textStart)) (.seq piece.regex (.atom (.look .textEnd))),
    piece.height + 2, false⟩

/-- A closing parenthesis is met while no group is open. -/
def Unopened (pattern : List Char) : Prop := ∃ state rest, Reads {} pattern (.strays state rest)

/-- The pattern is valid, and what stands behind it belongs to a comment. -/
def OpenEnded (pattern : List Char) : Prop :=
  (parse? pattern).isSome ∧ (parse? (pattern ++ closing)).isSome

section Patterns

variable {pattern : List Char} {piece : Piece} {r : Regex Atom}

theorem parse?_eq_some_iff : parse? pattern = some piece ↔
    ∃ fin, Reads {} pattern (.ends fin) ∧ fin.outer = [] ∧ fin.body.whole = piece := by
  unfold parse?
  rw [Option.bind_eq_some_iff]
  refine exists_congr fun fin => ?_
  constructor
  · rintro ⟨read, whole⟩
    split at whole
    · next closed =>
      exact ⟨reads_of_readPieces read, List.isEmpty_iff.1 closed, Option.some.inj whole⟩
    · exact nomatch whole
  · rintro ⟨reads, closed, rfl⟩
    exact ⟨reads.readPieces rfl (Nat.le_refl _), by simp [closed]⟩

theorem read?_eq_some_iff : read? pattern = some r ↔
    ∃ piece, parse? pattern = some piece ∧ piece.Fits ∧ piece.regex = r := by
  unfold read? parse?
  cases readPieces pattern.length {} pattern with
  | none => simp
  | some fin =>
    by_cases closed : fin.outer = []
    · simp [closed, Piece.Fits]
    · simp [closed]

/-- A valid pattern has no closing parenthesis that is met. -/
theorem Unopened.parse?_eq_none (h : Unopened pattern) : parse? pattern = none := by
  obtain ⟨s, rest, strays⟩ := h
  rw [Option.eq_none_iff_forall_ne_some]
  rintro piece valid
  obtain ⟨fin, reads, -⟩ := parse?_eq_some_iff.1 valid
  exact nomatch reads.unique strays

theorem Unopened.mem (h : Unopened pattern) : ')' ∈ pattern := by
  obtain ⟨s, rest, strays⟩ := h
  exact strays.mem_of_strays rfl

/-- There is a comment to take in what stands behind. -/
theorem OpenEnded.mem (h : OpenEnded pattern) : '#' ∈ pattern := by
  obtain ⟨piece, valid⟩ := Option.isSome_iff_exists.1 h.1
  obtain ⟨longer, valid'⟩ := Option.isSome_iff_exists.1 h.2
  obtain ⟨fin, reads, alone, -⟩ := parse?_eq_some_iff.1 valid
  obtain ⟨fin', reads', -⟩ := parse?_eq_some_iff.1 valid'
  rcases reads.append_closing rfl with ⟨hash, -⟩ | goes_on
  · exact hash
  · exact nomatch reads'.unique (goes_on _ (reads_closing alone))

/-- The group that the marks stand around. -/
def marked : OpenGroup := ⟨{}, false, ⟨[], [atomPiece (.look .textStart)]⟩⟩

theorem reads_anchored_iff {p : String} {o : Outcome} :
    Reads {} (anchored p).toList o ↔
      Reads (State.inside marked {}) (p.toList ++ closing) o := by
  have written : (anchored p).toList = '^' :: '(' :: '?' :: ':' :: (p.toList ++ closing) := by
    simp [anchored, closing]
  have start (l : List Char) : readPiece {} '^' l =
      some (({} : State).add (atomPiece (.look .textStart)), l) := rfl
  have opening (l : List Char) :
      readPiece (({} : State).add (atomPiece (.look .textStart))) '(' ('?' :: ':' :: l) =
        some (State.inside marked {}, l) := rfl
  rw [written]
  constructor
  · rintro h
    cases h with
    | ends done => cases done
    | strays found => cases found
    | part found read h =>
      obtain ⟨rfl, rfl⟩ := List.cons_eq_cons.1 found
      obtain ⟨rfl, rfl⟩ := Prod.mk.inj (Option.some.inj ((start _).symm.trans read))
      cases h with
      | ends done => cases done
      | strays found => cases found
      | part found read h =>
        obtain ⟨rfl, rfl⟩ := List.cons_eq_cons.1 found
        obtain ⟨rfl, rfl⟩ := Prod.mk.inj (Option.some.inj ((opening _).symm.trans read))
        exact h
  · exact fun h => .part rfl (start _) (.part rfl (opening _) h)

/-- A pattern that is read to its end and not in a comment there is put between the marks. -/
theorem parse?_anchored_of_valid {p : String} (valid : parse? p.toList = some piece)
    (closed : ¬ OpenEnded p.toList) : parse? (anchored p).toList = some piece.anchored := by
  obtain ⟨fin, reads, alone, rfl⟩ := parse?_eq_some_iff.1 valid
  rcases reads.append_closing rfl with ⟨-, ends⟩ | goes_on
  · refine absurd ⟨by simp [valid], ?_⟩ closed
    exact Option.isSome_iff_exists.2 ⟨_, parse?_eq_some_iff.2 ⟨fin, ends, alone, rfl⟩⟩
  · let group : Piece := ⟨fin.body.whole.regex, fin.body.whole.height + 1, false⟩
    let left : State := ⟨{}, fin.names, [], marked.before.add group⟩
    have leave : (fin.inside marked).leave = some left := by
      simp [State.inside, State.leave, alone, left, group, marked]
    have ends : Reads left ['$'] (.ends (left.add (atomPiece (.look .textEnd)))) :=
      .part rfl rfl (.ends rfl)
    have met := (goes_on _ (reads_closing alone)).inside_of_strays rfl leave ends
    have reads := reads_anchored_iff.2 met
    refine parse?_eq_some_iff.2 ⟨_, reads, rfl, ?_⟩
    simp [left, group, marked, State.add, Body.add, Body.whole, Body.branch, sequence,
      jointHeight, atomPiece, Piece.anchored]

/-- The group between the marks is closed somewhere. -/
theorem strays_of_parse?_anchored {p : String} (valid : parse? (anchored p).toList = some piece) :
    ∃ s rest, Reads {} (p.toList ++ closing) (.strays s rest) := by
  obtain ⟨fin, reads, closed, -⟩ := parse?_eq_some_iff.1 valid
  exact (reads_anchored_iff.1 reads).of_inside rfl rfl closed

theorem parse?_anchored_of_openEnded {p : String} (h : OpenEnded p.toList) :
    parse? (anchored p).toList = none := by
  obtain ⟨piece, valid⟩ := Option.isSome_iff_exists.1 h.2
  obtain ⟨fin, reads, -⟩ := parse?_eq_some_iff.1 valid
  rw [Option.eq_none_iff_forall_ne_some]
  rintro whole anchored_valid
  obtain ⟨s, rest, strays⟩ := strays_of_parse?_anchored anchored_valid
  exact nomatch reads.unique strays

theorem parse?_anchored_of_invalid {p : String} (invalid : parse? p.toList = none)
    (opened : ¬ Unopened p.toList) : parse? (anchored p).toList = none := by
  rw [Option.eq_none_iff_forall_ne_some]
  rintro whole anchored_valid
  obtain ⟨s, rest, strays⟩ := strays_of_parse?_anchored anchored_valid
  rcases strays.of_append_closing rfl rfl with ⟨fin, reads, alone⟩ | unopened
  · have valid := parse?_eq_some_iff.2 ⟨fin, reads, alone, rfl⟩
    exact nomatch invalid.symm.trans valid
  · exact opened unopened

theorem Piece.Fits.of_anchored (h : piece.anchored.Fits) : piece.Fits := by
  obtain ⟨low, light⟩ := h
  refine ⟨by simp only [Piece.anchored] at low; omega, ?_⟩
  simp only [Regex.isLightEnough, Piece.anchored, Regex.weight, Bool.and_eq_true,
    decide_eq_true_eq] at light ⊢
  omega

theorem spans_textStart_iff {text : List Char} {i j : Nat} :
    (Regex.atom (.look .textStart)).Spans text i j ↔ i = 0 ∧ j = 0 := by
  constructor
  · rintro ⟨rfl, inside, start⟩
    have none_before : j = 0 ∨ text = [] := by simpa [Look.holds] using start
    rcases none_before with rfl | rfl
    · exact ⟨rfl, rfl⟩
    · have first : j = 0 := Nat.le_zero.1 inside
      exact ⟨first, first⟩
  · rintro ⟨rfl, rfl⟩
    exact ⟨rfl, Nat.zero_le _, by simp [Look.holds]⟩

theorem spans_textEnd_iff {text : List Char} {i j : Nat} :
    (Regex.atom (.look .textEnd)).Spans text i j ↔ i = text.length ∧ j = text.length := by
  constructor
  · rintro ⟨rfl, inside, stop⟩
    have none_behind : text.length ≤ j := by simpa [Look.holds] using stop
    have last : j = text.length := Nat.le_antisymm inside none_behind
    exact ⟨last, last⟩
  · rintro ⟨rfl, rfl⟩
    exact ⟨rfl, Nat.le_refl _, by simp [Look.holds]⟩

theorem anchored_occursIn_iff {text : List Char} :
    piece.anchored.regex.occursIn text = true ↔ piece.regex.SpansAll text := by
  rw [Regex.occursIn_iff]
  constructor
  · rintro ⟨i, j, -, m, start, n, inner, stop⟩
    obtain ⟨rfl, rfl⟩ := spans_textStart_iff.1 start
    obtain ⟨rfl, rfl⟩ := spans_textEnd_iff.1 stop
    exact inner
  · intro inner
    exact ⟨0, text.length, Nat.zero_le _, 0, spans_textStart_iff.2 ⟨rfl, rfl⟩, text.length, inner,
      spans_textEnd_iff.2 ⟨rfl, rfl⟩⟩

end Patterns

/-- A pattern that is valid is within the limits, also between the marks. -/
def WithinLimits (pattern : List Char) : Prop :=
  ∀ piece, parse? pattern = some piece → piece.anchored.Fits

/-- What is found when an attribute is held against a pattern. -/
structure Decides (p a : String) (found : Bool) : Prop where
  /-- The pattern is valid on its own, and the whole attribute matches. -/
  whole : ¬ Unopened p.toList → ¬ OpenEnded p.toList → WithinLimits p.toList →
    (found = true ↔ ∃ r, read? p.toList = some r ∧ r.SpansAll a.toList)
  /-- A pattern that is too large matches nothing. -/
  large : ¬ WithinLimits p.toList → found = false
  /-- A valid pattern whose last comment takes in the mark for the end matches nothing either. -/
  openEnded : OpenEnded p.toList → found = false
  /-- A pattern that closes the group of the marks is not valid on its own, and yet it matches
  wherever a part of the attribute does what it says between the marks. -/
  unopened : Unopened p.toList → read? p.toList = none ∧
    (found = true ↔ ∃ r, read? (anchored p).toList = some r ∧
      ∃ i j, i ≤ a.toList.length ∧ r.Spans a.toList i j)

theorem isMatch_iff (p a : String) : isMatch p a = true ↔
    ∃ r, read? (anchored p).toList = some r ∧ r.occursIn a.toList = true := by
  unfold isMatch
  cases read? (anchored p).toList <;> simp

theorem isMatch_eq_false {p a : String} (invalid : read? (anchored p).toList = none) :
    isMatch p a = false := by
  simp [isMatch, invalid]

theorem read?_eq_none_of_parse? {pattern : List Char} (invalid : parse? pattern = none) :
    read? pattern = none := by
  rw [Option.eq_none_iff_forall_ne_some]
  rintro r read
  obtain ⟨piece, valid, -⟩ := read?_eq_some_iff.1 read
  exact nomatch invalid.symm.trans valid

theorem isMatch_iff_spansAll {p a : String} (opened : ¬ Unopened p.toList)
    (closed : ¬ OpenEnded p.toList) (within : WithinLimits p.toList) :
    isMatch p a = true ↔ ∃ r, read? p.toList = some r ∧ r.SpansAll a.toList := by
  cases valid : parse? p.toList with
  | none =>
    have invalid := read?_eq_none_of_parse? (parse?_anchored_of_invalid valid opened)
    simp [isMatch_eq_false invalid, read?_eq_none_of_parse? valid]
  | some piece =>
    have fits := within piece valid
    have own : read? p.toList = some piece.regex :=
      read?_eq_some_iff.2 ⟨piece, valid, fits.of_anchored, rfl⟩
    have anchored_read : read? (anchored p).toList = some piece.anchored.regex :=
      read?_eq_some_iff.2 ⟨_, parse?_anchored_of_valid valid closed, fits, rfl⟩
    simp [isMatch_iff, own, anchored_read, anchored_occursIn_iff]

theorem isMatch_of_large {p a : String} (large : ¬ WithinLimits p.toList) :
    isMatch p a = false := by
  simp only [WithinLimits, not_forall] at large
  obtain ⟨piece, valid, heavy⟩ := large
  apply isMatch_eq_false
  by_cases closed : OpenEnded p.toList
  · exact read?_eq_none_of_parse? (parse?_anchored_of_openEnded closed)
  · rw [Option.eq_none_iff_forall_ne_some]
    rintro r read
    obtain ⟨whole, anchored_valid, fits, -⟩ := read?_eq_some_iff.1 read
    obtain rfl := Option.some.inj
      ((parse?_anchored_of_valid valid closed).symm.trans anchored_valid)
    exact heavy fits

end Pattern

theorem Operator.decides_matchesPattern (a p : String) (values : List String) :
    Pattern.Decides p a (Operator.matchesPattern.holds a (p :: values)) := by
  change Pattern.Decides p a (Pattern.isMatch p a)
  refine
    { whole := Pattern.isMatch_iff_spansAll
      large := ?_
      openEnded := ?_
      unopened := ?_ }
  · exact Pattern.isMatch_of_large
  · intro openEnded
    exact Pattern.isMatch_eq_false
      (Pattern.read?_eq_none_of_parse? (Pattern.parse?_anchored_of_openEnded openEnded))
  · intro unopened
    refine ⟨Pattern.read?_eq_none_of_parse? unopened.parse?_eq_none, ?_⟩
    simp only [Pattern.isMatch_iff, Pattern.Regex.occursIn_iff]

/-- A pattern that has neither comments nor groups is read as it is meant. -/
theorem Operator.decides_plain :
    let p := "user-[0-9]"
    ¬ Pattern.Unopened p.toList ∧ ¬ Pattern.OpenEnded p.toList ∧ Pattern.WithinLimits p.toList ∧
      (∃ r, Pattern.read? p.toList = some r ∧ r.SpansAll "user-1".toList) ∧
      ¬ ∃ r, Pattern.read? p.toList = some r ∧ r.SpansAll "user-12".toList := by
  intro p
  have opened : ¬ Pattern.Unopened p.toList := fun h => absurd h.mem (by decide)
  have closed : ¬ Pattern.OpenEnded p.toList := fun h => absurd h.mem (by decide)
  have within : Pattern.WithinLimits p.toList := by
    have small :
        (Pattern.parse? p.toList).all (fun piece => decide piece.anchored.Fits) = true := by
      decide +kernel
    intro piece valid
    simpa [valid] using small
  have one := (decides_matchesPattern "user-1" p []).whole opened closed within
  have two := (decides_matchesPattern "user-12" p []).whole opened closed within
  refine ⟨opened, closed, within, one.1 (by decide +kernel), fun matched => ?_⟩
  exact absurd (two.2 matched) (by decide +kernel)

/-- A pattern that is not valid on its own matches, as its parenthesis closes the group of the
marks; and the whole of an attribute matches a valid pattern that ends in a comment, but is not
found to. -/
theorem Operator.escaped_marks :
    (Pattern.read? "a)|(?:b".toList = none ∧
      Operator.matchesPattern.holds "ax" ["a)|(?:b"] = true) ∧
    (∃ r, Pattern.read? "(?x) a b # c".toList = some r ∧ r.SpansAll "ab".toList) ∧
      Operator.matchesPattern.holds "ab" ["(?x) a b # c"] = false := by
  let letter (c : Char) : Pattern.Regex Pattern.Atom :=
    .atom (.chars (Unicode.CodeSet.single c.toNat))
  have commented : Pattern.read? "(?x) a b # c".toList =
      some (.seq .empty (.seq (letter 'a') (letter 'b'))) := by
    decide +kernel
  refine ⟨⟨by decide +kernel, by decide +kernel⟩, ⟨_, commented, ?_⟩, by decide +kernel⟩
  exact ⟨0, rfl, 1, ⟨rfl, 'a', rfl, by decide +kernel⟩, rfl, 'b', rfl, by decide +kernel⟩

end FlagHost

import FlagHost.Proofs.Prefixes
import FlagHost.Proofs.Spans
import Mathlib.Data.List.TakeWhile

/-!
# Brackets at the start of a text

What is read of a bracket in a text that stands alone, and in the text with a closing parenthesis
behind it. Members of a bracket may take the parenthesis, but a bracket that is not closed in the
text is not closed at all, as no closing bracket follows. So the two readings agree without an
exception.
-/

namespace FlagHost.Pattern

open Unicode

variable {options : Options}

/-! ## Members and ranges -/

theorem readMember_agrees (c : Char) (cs : List Char) :
    Agrees (AstrayEscape options) cs (readMember options (c :: cs))
      (readMember options (c :: (cs ++ closing))) := by
  by_cases slash : c = '\\'
  · subst slash
    exact readEscape_agrees cs
  · simpa [readMember, slash] using Agrees.kept List.suffix_rfl

/-- What stands at the start of a text, if there is anything. -/
theorem readMember_agrees' (cs : List Char) :
    Agrees (AstrayEscape options) cs (readMember options cs)
      (readMember options (cs ++ closing)) := by
  rcases cs with _ | ⟨c, cs⟩
  · have member : readMember options closing = some (.literal ⟨')', false⟩, ['$']) := rfl
    rw [List.nil_append, member]
    exact .beyond (.inl List.suffix_rfl)
  · exact (readMember_agrees c cs).mono (List.suffix_cons c cs)

theorem dropWhile_append_closing (p : Char → Bool) (stop : p ')' = false) (l : List Char) :
    (l ++ closing).dropWhile p = l.dropWhile p ++ closing := by
  rw [List.dropWhile_append]
  cases left : l.dropWhile p <;> simp [closing, stop]

/-- The first character that is no blank, also if it is in a comment. -/
def firstSolid (l : List Char) : Option Char :=
  match l.dropWhile Property.whiteSpace.has with
  | '#' :: comment => (comment.dropWhile Property.whiteSpace.has).head?
  | cs => cs.head?

theorem peekBehind_cons (options : Options) (c : Char) (l : List Char) :
    peekBehind options (c :: l) =
      if !options.spaced then l.head? else (firstSolid l).or l.head? := rfl

theorem firstSolid_append (l : List Char) :
    firstSolid (l ++ closing) = (firstSolid l).or (some ')') := by
  have drops := dropWhile_append_closing Property.whiteSpace.has (by decide +kernel)
  unfold firstSolid
  rw [drops]
  rcases l.dropWhile Property.whiteSpace.has with _ | ⟨e, rest⟩
  · rfl
  · by_cases hash : e = '#'
    · subst hash
      simp only [List.cons_append, drops]
      cases rest.dropWhile Property.whiteSpace.has <;> rfl
    · simp [hash]

/-- A text that starts with a mark that is neither blank nor a comment has it in front. -/
theorem firstSolid_cons {d : Char} (hash : d ≠ '#') (blank : Property.whiteSpace.has d = false)
    (l : List Char) : firstSolid (d :: l) = some d := by
  simp [firstSolid, blank, hash]

/-- What comes behind a hyphen has a meaning there if it is another one or a closing bracket, and
neither comes from behind the text. -/
theorem peekBehind_append (options : Options) (c : Char) (l : List Char) {d : Char}
    (mark : d = ']' ∨ d = '-') :
    peekBehind options (c :: (l ++ closing)) = some d ↔ peekBehind options (c :: l) = some d := by
  have other : ')' ≠ d := by rcases mark with rfl | rfl <;> decide
  have hash : d ≠ '#' := by rcases mark with rfl | rfl <;> decide
  have blank : Property.whiteSpace.has d = false := by
    rcases mark with rfl | rfl <;> decide +kernel
  have head : (l ++ closing).head? = some d ↔ l.head? = some d := by
    cases l <;> simp [closing, other]
  rw [peekBehind_cons, peekBehind_cons, firstSolid_append]
  split
  · exact head
  · cases first : firstSolid l with
    | some e => simp
    | none =>
      have other_first : l.head? ≠ some d := by
        rintro starts
        obtain ⟨rest, rfl⟩ := List.head?_eq_some_iff.1 starts
        rw [firstSolid_cons hash blank] at first
        cases first
      simp [other, other_first]

/-- The range between two members. -/
def range? (options : Options) (first last : Primitive) : Option SetTree :=
  (first.endPoint? options).bind fun lo => (last.endPoint? options).bind fun hi =>
    if lo ≤ hi then some ⟨CodeSet.range lo hi, 0⟩ else none

/-- Reads on behind the first member of a range, or what may be one. -/
def rangeFrom (options : Options) (first : Primitive) (l : List Char) :
    Option (SetTree × List Char) :=
  match l with
  | [] => none
  | next :: rest =>
    if next ≠ '-' || peekBehind options l = some ']' || peekBehind options l = some '-' then
      (first.memberSet? options).map fun set => (⟨set, 0⟩, l)
    else (readMember options (options.skip rest)).bind fun r =>
      (range? options first r.1).map (·, r.2)

theorem readRange_eq (options : Options) (cs : List Char) :
    readRange options cs =
      (readMember options cs).bind fun r => rangeFrom options r.1 (options.skip r.2) := by
  have finish (first : Primitive) (r : Primitive × List Char) :
      (range? options first r.1).map (·, r.2) =
        (first.endPoint? options).bind fun lo => (r.1.endPoint? options).bind fun hi =>
          if lo ≤ hi then some (⟨CodeSet.range lo hi, 0⟩, r.2) else none := by
    unfold range?
    cases first.endPoint? options <;> cases r.1.endPoint? options <;> simp
  unfold readRange
  refine congrArg _ (funext fun ⟨first, rest⟩ => ?_)
  dsimp only
  generalize options.skip rest = l
  cases l with
  | nil => rfl
  | cons next l =>
    simp only [rangeFrom, finish]
    simp [Option.map_eq_bind]

theorem rangeFrom_look (look : Look) (l : List Char) : rangeFrom options (.look look) l = none := by
  cases l <;> simp [rangeFrom, range?, Primitive.memberSet?, Primitive.endPoint?]

theorem rangeFrom_agrees (first : Primitive) (l : List Char) :
    Agrees (fun _ => Spent) l (rangeFrom options first l)
      (rangeFrom options first (l ++ closing)) := by
  cases l with
  | nil =>
    refine .refused fun tree rest read => ?_
    -- The parenthesis stands behind the member, and there it is left.
    obtain ⟨set, -, same⟩ := Option.map_eq_some_iff.1 read
    obtain ⟨-, rfl⟩ := Prod.mk.inj same
    exact List.suffix_rfl
  | cons next l =>
    have bracket := peekBehind_append options next l (.inl rfl)
    have hyphen := peekBehind_append options next l (.inr rfl)
    simp only [List.cons_append, rangeFrom, bracket, hyphen]
    split
    · exact .map_option (SetTree.mk · 0) List.suffix_rfl
    · have last := Agrees.skip options (f := readMember options) l rfl
        fun l _ => readMember_agrees' l
      refine last.bind_map (List.suffix_cons next l) _ fun p tree rest reads stray => ?_
      rcases stray with overrun | ⟨⟨look, rfl⟩, -⟩
      · exact overrun.spent
      · simp [range?, Primitive.endPoint?] at reads

theorem readRange_agrees (c : Char) (cs : List Char) :
    Agrees (fun _ => Spent) cs (readRange options (c :: cs))
      (readRange options (c :: (cs ++ closing))) := by
  rw [readRange_eq, readRange_eq]
  refine (readMember_agrees c cs).bind (fun first rest suffix => ?_) (fun first _ => ?_)
    fun first rest stray tree rest' read => ?_
  · exact (Agrees.skip options rest rfl fun l _ => rangeFrom_agrees first l).mono suffix
  · simpa [rangeFrom] using Agrees.none
  · rcases stray with overrun | ⟨⟨look, rfl⟩, -⟩
    · have suffix := (rangeFrom_agrees first (options.skip rest)).suffix read
      exact (suffix.trans (skip_suffix options rest)).trans overrun.spent
    · simp [rangeFrom_look] at read

/-! ## Named sets -/

/-- A mark that does not come from behind the text is found in the text or not at all. -/
theorem span_cases (mark : Char) (other : mark ≠ ')' ∧ mark ≠ '$') (l : List Char) :
    (∃ rest, mark :: rest <:+ l ∧ l.dropWhile (· ≠ mark) = mark :: rest ∧
      (l ++ closing).takeWhile (· ≠ mark) = l.takeWhile (· ≠ mark) ∧
      (l ++ closing).dropWhile (· ≠ mark) = mark :: (rest ++ closing)) ∨
    l.dropWhile (· ≠ mark) = [] ∧ (l ++ closing).dropWhile (· ≠ mark) = [] := by
  by_cases mem : mark ∈ l
  · left
    obtain ⟨span, rest, rfl, absent⟩ := List.eq_append_cons_of_mem mem
    have inside : ∀ c ∈ span, decide (c ≠ mark) = true := by
      intro c mem
      simpa using ne_of_mem_of_not_mem mem absent
    have stop (tail : List Char) : ∀ c ∈ (mark :: tail).head?, decide (c ≠ mark) = false := by simp
    refine ⟨rest, List.suffix_append _ _, dropWhile_append_of_stop inside (stop rest), ?_, ?_⟩
    · rw [List.append_assoc, List.cons_append, takeWhile_append_of_stop inside (stop _),
        takeWhile_append_of_stop inside (stop _)]
    · rw [List.append_assoc, List.cons_append, dropWhile_append_of_stop inside (stop _)]
  · right
    have all : ∀ c ∈ l, c ≠ mark := fun c mem' => ne_of_mem_of_not_mem mem' mem
    have behind : ∀ c ∈ closing, c ≠ mark := by simp [closing, other.1.symm, other.2.symm]
    constructor <;> rw [List.dropWhile_eq_nil_iff]
    · simpa using all
    · simpa [or_imp, forall_and] using And.intro all behind

/-- The set that is named in front of a colon and a closing bracket. -/
def asciiSetIn? (negated : Bool) (l : List Char) : Option (CodeSet × Bool × List Char) :=
  match l.dropWhile (· ≠ ':') with
  | ':' :: ']' :: rest =>
    (asciiSets.find? (·.1 = String.ofList (l.takeWhile (· ≠ ':')))).map fun (_, set) =>
      (set, negated, rest)
  | _ => none

theorem readAsciiSet?_cons (c : Char) (l : List Char) : readAsciiSet? (c :: l) =
    if c = ':' then if l.head? = some '^' then asciiSetIn? true l.tail else asciiSetIn? false l
    else none := by
  by_cases colon : c = ':'
  · subst colon
    rcases l with _ | ⟨d, l⟩
    · rfl
    · by_cases caret : d = '^'
      · subst caret
        rfl
      · simp only [readAsciiSet?, List.cons.injEq, caret, false_and, imp_self, implies_true,
          List.head?_cons, Option.some.injEq, if_true, if_false]
        rfl
  · simp [readAsciiSet?, colon]

/-- The same is found, and what is behind the text is left; or nothing is found. -/
def SameAsciiSet (l : List Char) (o o' : Option (CodeSet × Bool × List Char)) : Prop :=
  (∃ set negated rest, rest <:+ l ∧ o = some (set, negated, rest) ∧
    o' = some (set, negated, rest ++ closing)) ∨ o = none ∧ o' = none

theorem asciiSetIn?_append (negated : Bool) (l : List Char) :
    SameAsciiSet l (asciiSetIn? negated l) (asciiSetIn? negated (l ++ closing)) := by
  unfold asciiSetIn?
  rcases span_cases ':' (by decide) l with
    ⟨rest, suffix, own, taken, dropped⟩ | ⟨own, dropped⟩
  · rw [own, dropped, taken]
    rcases rest with _ | ⟨d, rest⟩
    · exact .inr ⟨rfl, rfl⟩
    · by_cases bracket : d = ']'
      · subst bracket
        cases asciiSets.find? (·.1 = String.ofList (l.takeWhile (· ≠ ':'))) with
        | none => exact .inr ⟨rfl, rfl⟩
        | some named =>
          refine .inl ⟨named.2, negated, rest, ?_, rfl, rfl⟩
          exact ((List.suffix_cons _ _).trans (List.suffix_cons _ _)).trans suffix
      · right
        simp [bracket]
  · rw [own, dropped]
    exact .inr ⟨rfl, rfl⟩

theorem SameAsciiSet.mono {l l' : List Char} {o o' : Option (CodeSet × Bool × List Char)}
    (h : SameAsciiSet l o o') (suffix : l <:+ l') : SameAsciiSet l' o o' := by
  rcases h with ⟨set, negated, rest, suffix', found⟩ | nothing
  · exact .inl ⟨set, negated, rest, suffix'.trans suffix, found⟩
  · exact .inr nothing

theorem readAsciiSet?_append (l : List Char) :
    SameAsciiSet l (readAsciiSet? l) (readAsciiSet? (l ++ closing)) := by
  rcases l with _ | ⟨c, l⟩
  · exact .inr ⟨rfl, rfl⟩
  rw [List.cons_append, readAsciiSet?_cons, readAsciiSet?_cons]
  by_cases colon : c = ':'
  · have head : (l ++ closing).head? = some '^' ↔ l.head? = some '^' := by
      cases l <;> simp [closing]
    simp only [colon, if_true, head]
    split
    · next caret =>
      obtain ⟨l, rfl⟩ := List.head?_eq_some_iff.1 caret
      exact (asciiSetIn?_append true l).mono
        ((List.suffix_cons _ _).trans (List.suffix_cons _ _))
    · exact (asciiSetIn?_append false l).mono (List.suffix_cons _ _)
  · exact .inr (by simp [colon])

/-! ## The start of a bracket -/

theorem hyphens_nil (hyphen : SetTree) (b : OpenBracket) (fuel : Nat) :
    readOpening.hyphens options hyphen b fuel [] = none := by
  cases fuel <;> rfl

theorem hyphens_closing (hyphen : SetTree) (b : OpenBracket) {fuel : Nat} (enough : 2 ≤ fuel) :
    readOpening.hyphens options hyphen b fuel closing = some (b, closing) := by
  obtain ⟨fuel, rfl⟩ := Nat.exists_eq_add_of_le' enough
  rfl

theorem hyphens_agrees_nil (hyphen : SetTree) (b : OpenBracket) {fuel fuel' : Nat}
    (enough' : closing.length ≤ fuel') :
    Agrees (fun _ => Spent) [] (readOpening.hyphens options hyphen b fuel [])
      (readOpening.hyphens options hyphen b fuel' closing) := by
  rw [hyphens_nil, hyphens_closing hyphen b enough']
  exact .beyond List.suffix_rfl

theorem hyphens_agrees (hyphen : SetTree) (b : OpenBracket) {fuel fuel' : Nat} (l : List Char)
    (enough : l.length ≤ fuel) (enough' : (l ++ closing).length ≤ fuel') :
    Agrees (fun _ => Spent) l (readOpening.hyphens options hyphen b fuel l)
      (readOpening.hyphens options hyphen b fuel' (l ++ closing)) := by
  induction fuel generalizing fuel' b l with
  | zero =>
    obtain rfl := List.length_eq_zero_iff.1 (Nat.le_zero.1 enough)
    exact hyphens_agrees_nil hyphen b enough'
  | succ fuel ih =>
    cases l with
    | nil => exact hyphens_agrees_nil hyphen b enough'
    | cons c l =>
      obtain ⟨fuel', rfl⟩ : ∃ n, fuel' = n + 1 :=
        Nat.exists_eq_add_of_le' (Nat.le_trans (by simp) enough')
      simp only [List.cons_append, readOpening.hyphens]
      split
      · let f := readOpening.hyphens options hyphen (b.add hyphen) fuel
        let g := readOpening.hyphens options hyphen (b.add hyphen) fuel'
        have behind := Agrees.skip options (f := f) (g := g) l (by simp [f, g, hyphens_nil])
          fun l' suffix => by
            have le := suffix.length_le
            simp only [List.cons_append, List.length_cons, List.length_append] at enough enough'
            exact ih _ l' (by omega) (by rw [List.length_append]; omega)
        exact behind.mono (List.suffix_cons c l)
      · exact .kept List.suffix_rfl

/-- Ends the start of a bracket behind the hyphens. -/
def openingEnd (options : Options) (b : OpenBracket) (l : List Char) :
    Option (OpenBracket × List Char) :=
  match l with
  | [] => none
  | c :: rest =>
    if c = ']' && b.items.count = 0 then
      if (options.skip rest).isEmpty then none
      else some (b.add ⟨CodeSet.single 0x5D, 0⟩, options.skip rest)
    else some (b, l)

/-- Reads the start of a bracket behind the caret. -/
def openingFrom (options : Options) (negated : Bool) (l : List Char) :
    Option (OpenBracket × List Char) :=
  (readOpening.hyphens options ⟨CodeSet.single 0x2D, 0⟩ ⟨negated, none, {}⟩ l.length l).bind
    fun r => openingEnd options r.1 r.2

/-- Reads the start of a bracket, behind blanks. -/
def startFrom (options : Options) : List Char → Option (OpenBracket × List Char)
  | [] => none
  | '^' :: l => openingFrom options true (options.skip l)
  | l => openingFrom options false l

theorem readOpening_eq (options : Options) (cs : List Char) :
    readOpening options cs = startFrom options (options.skip cs) := by
  unfold readOpening startFrom
  generalize options.skip cs = l
  rcases l with _ | ⟨c, l⟩
  · rfl
  · by_cases caret : c = '^'
    · subst caret
      rfl
    · simp only [List.cons.injEq, caret, false_and, imp_self, implies_true]
      rfl

theorem openingEnd_agrees (b : OpenBracket) (l : List Char) :
    Agrees (fun _ => Spent) l (openingEnd options b l) (openingEnd options b (l ++ closing)) := by
  cases l with
  | nil => exact .beyond List.suffix_rfl
  | cons c l =>
    simp only [List.cons_append, openingEnd]
    split
    · rcases skip_append options l with skip | ⟨-, skip, skip'⟩
      · rw [skip]
        cases left : options.skip l with
        | nil => exact .beyond List.suffix_rfl
        | cons d m =>
          have suffix : d :: m <:+ l := left ▸ skip_suffix options l
          exact .kept (suffix.trans (List.suffix_cons c l))
      · rw [skip, skip']
        exact .none
    · exact .kept List.suffix_rfl

theorem openingFrom_agrees (negated : Bool) (l : List Char) :
    Agrees (fun _ => Spent) l (openingFrom options negated l)
      (openingFrom options negated (l ++ closing)) := by
  refine (hyphens_agrees _ _ l (Nat.le_refl _) (Nat.le_refl _)).bind
    (fun b rest suffix => ?_) (fun b _ => .none) fun b rest spent opened rest' read => ?_
  · exact (openingEnd_agrees b rest).mono suffix
  · exact ((openingEnd_agrees b rest).suffix read).trans spent

theorem readOpening_agrees (cs : List Char) :
    Agrees (fun _ => Spent) cs (readOpening options cs) (readOpening options (cs ++ closing)) := by
  rw [readOpening_eq, readOpening_eq]
  refine Agrees.skip options (f := startFrom options) cs rfl fun l _ => ?_
  rcases l with _ | ⟨c, l⟩
  · refine .refused fun opened rest read => ?_
    exact (openingFrom_agrees false closing).suffix read
  · by_cases caret : c = '^'
    · subst caret
      have behind := Agrees.skip options (f := openingFrom options true) l rfl
        fun l _ => openingFrom_agrees true l
      exact behind.mono (List.suffix_cons _ l)
    · simpa [startFrom, caret] using openingFrom_agrees false (c :: l)

/-! ## The members of a bracket -/

/-- Reads on in a bracket of which something is left to read. -/
def membersFrom (options : Options) (fuel : Nat) (outer : List OpenBracket) (b : OpenBracket)
    (l : List Char) : Option (SetTree × List Char) :=
  match l with
  | [] => none
  | '[' :: rest =>
    match readAsciiSet? rest with
    | some (set, negated, rest) => (options.settle negated (options.fold set)).bind fun set =>
      readMembers options fuel outer (b.add ⟨set, 0⟩) rest
    | none => (readOpening options rest).bind fun r => readMembers options fuel (b :: outer) r.1 r.2
  | ']' :: rest => (b.close options).bind fun tree =>
    match outer with
    | [] => some (tree, rest)
    | parent :: outer => readMembers options fuel outer (parent.add tree) rest
  | '&' :: '&' :: rest => readMembers options fuel outer (b.combine options .inter) rest
  | '-' :: '-' :: rest => readMembers options fuel outer (b.combine options .diff) rest
  | '~' :: '~' :: rest => readMembers options fuel outer (b.combine options .symmDiff) rest
  | l => (readRange options l).bind fun r => readMembers options fuel outer (b.add r.1) r.2

theorem readMembers_succ (options : Options) (fuel : Nat) (outer : List OpenBracket)
    (b : OpenBracket) (cs : List Char) :
    readMembers options (fuel + 1) outer b cs =
      membersFrom options fuel outer b (options.skip cs) := rfl

/-- A character that opens nothing, closes nothing and does not combine with the one behind it. -/
def IsPlain (c : Char) (l : List Char) : Prop :=
  c ≠ '[' ∧ c ≠ ']' ∧ (l.head? = some c → c ≠ '&' ∧ c ≠ '-' ∧ c ≠ '~')

theorem IsPlain.append {c : Char} {l : List Char} (plain : IsPlain c l) :
    IsPlain c (l ++ closing) := by
  obtain ⟨opening, closes, pair⟩ := plain
  refine ⟨opening, closes, fun head => ?_⟩
  cases l with
  | nil =>
    obtain rfl := Option.some.inj head
    decide
  | cons d l => exact pair head

variable {fuel : Nat} {outer : List OpenBracket} {b : OpenBracket}

theorem membersFrom_plain {c : Char} {l : List Char} (plain : IsPlain c l) :
    membersFrom options fuel outer b (c :: l) =
      (readRange options (c :: l)).bind fun r =>
        readMembers options fuel outer (b.add r.1) r.2 := by
  obtain ⟨opening, closes, pair⟩ := plain
  unfold membersFrom
  split <;> simp_all

/-- A bracket is not closed where no closing bracket is left. -/
theorem Spent.readMembers {cs : List Char} (h : Spent cs) :
    readMembers options fuel outer b cs = none := by
  induction fuel generalizing b cs with
  | zero => rfl
  | succ fuel ih =>
    rw [readMembers_succ, h.skip]
    cases cs with
    | nil => rfl
    | cons c cs =>
      have plain : IsPlain c cs := by
        refine ⟨?_, ?_, fun _ => ?_⟩ <;> rcases h.mem with rfl | rfl <;> decide
      rw [membersFrom_plain plain, Option.bind_eq_none_iff]
      rintro ⟨tree, rest⟩ read
      exact ih (((readRange_agrees c cs).suffix read).trans h.overrun.spent)

/-- What reads on in a bracket agrees if it does behind what comes first. -/
theorem Agrees.bind_members {α : Type} {o o' : Option (α × List Char)} {cs l : List Char}
    (h : Agrees (fun _ => Spent) l o o') (n n' : List Char → Nat) (inner : α → OpenBracket)
    (more : ∀ x rest, rest <:+ l →
      Agrees Never cs (readMembers options (n rest) outer (inner x) rest)
        (readMembers options (n' (rest ++ closing)) outer (inner x) (rest ++ closing))) :
    Agrees Never cs (o.bind fun r => readMembers options (n r.2) outer (inner r.1) r.2)
      (o'.bind fun r => readMembers options (n' r.2) outer (inner r.1) r.2) := by
  refine h.bind more (fun x _ => ?_) fun x rest spent tree rest' read => ?_
  · simpa [Spent.readMembers List.nil_suffix] using Agrees.none
  · exact nomatch spent.readMembers.symm.trans read

/-- One step in a bracket agrees if what comes behind it does. -/
theorem membersFrom_agrees {fuel' : Nat} {c : Char} {l : List Char}
    (more : ∀ outer b rest, rest <:+ l →
      Agrees Never (c :: l) (readMembers options fuel outer b rest)
        (readMembers options fuel' outer b (rest ++ closing))) :
    Agrees Never (c :: l) (membersFrom options fuel outer b (c :: l))
      (membersFrom options fuel' outer b (c :: (l ++ closing))) := by
  by_cases opening : c = '['
  · subst opening
    simp only [membersFrom]
    rcases readAsciiSet?_append l with ⟨set, negated, rest, suffix, own, spliced⟩ | ⟨own, spliced⟩
    · rw [own, spliced]
      exact .bind_option fun set _ => more _ _ rest suffix
    · rw [own, spliced]
      exact (readOpening_agrees l).bind_members (fun _ => fuel) (fun _ => fuel') id
        fun inner rest suffix => more _ inner rest suffix
  by_cases closes : c = ']'
  · subst closes
    simp only [membersFrom]
    refine .bind_option fun tree _ => ?_
    cases outer with
    | nil => exact .kept (List.suffix_cons _ l)
    | cons parent outer => exact more _ _ l List.suffix_rfl
  by_cases pair : l.head? = some c ∧ (c = '&' ∨ c = '-' ∨ c = '~')
  · obtain ⟨head, combines⟩ := pair
    obtain ⟨l, rfl⟩ := List.head?_eq_some_iff.1 head
    rcases combines with rfl | rfl | rfl <;> exact more _ _ l (List.suffix_cons _ l)
  have plain : IsPlain c l := ⟨opening, closes, by tauto⟩
  rw [membersFrom_plain plain, membersFrom_plain plain.append]
  exact (readRange_agrees c l).bind_members (fun _ => fuel) (fun _ => fuel') b.add
    fun tree rest suffix => more _ _ rest suffix

theorem readMembers_agrees {fuel' : Nat} (cs : List Char) (enough : cs.length < fuel)
    (enough' : (cs ++ closing).length < fuel') :
    Agrees Never cs (readMembers options fuel outer b cs)
      (readMembers options fuel' outer b (cs ++ closing)) := by
  induction fuel generalizing fuel' outer b cs with
  | zero => exact absurd enough (Nat.not_lt_zero _)
  | succ fuel ih =>
    obtain ⟨fuel', rfl⟩ : ∃ n, fuel' = n + 1 :=
      Nat.exists_eq_add_of_le' (Nat.le_trans (Nat.le_add_left _ _) enough')
    rw [readMembers_succ, readMembers_succ]
    refine Agrees.skip options (f := membersFrom options fuel outer b)
      (g := membersFrom options fuel' outer b) cs rfl fun l suffix => ?_
    rcases l with _ | ⟨c, l⟩
    · have unclosed : readMembers options (fuel' + 1) outer b closing = none :=
        Spent.readMembers List.suffix_rfl
      rw [readMembers_succ, Spent.skip List.suffix_rfl] at unclosed
      rw [List.nil_append, unclosed]
      exact .none
    · refine membersFrom_agrees fun outer b rest inner => ?_
      have le := suffix.length_le
      have shorter := inner.length_le
      simp only [List.length_cons, List.length_append] at le enough enough'
      refine (ih rest (by omega) ?_).mono (inner.trans (List.suffix_cons c l))
      rw [List.length_append]
      omega

theorem readBracket_agrees (cs : List Char) :
    Agrees Never cs (readBracket options cs) (readBracket options (cs ++ closing)) :=
  (readOpening_agrees cs).bind_members (fun rest => rest.length + 1) (fun rest => rest.length + 1)
    id fun _ rest suffix =>
      (readMembers_agrees rest (Nat.lt_succ_self _) (Nat.lt_succ_self _)).mono suffix

end FlagHost.Pattern

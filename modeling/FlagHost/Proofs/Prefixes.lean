import FlagHost.Pattern.Reader
import Mathlib.Data.Option.Basic

/-!
# Reading the start of a text

What is read of a text that stands alone, and of the text with a closing parenthesis and a mark for
the end behind it. A reader that finds what it needs takes the same in both and leaves the rest
alone. There are two ways for it not to: if white space is passed over, a comment at the end of the
text takes in all that follows; and a reader for which the text ends too early may go on into what
follows.

`Agrees` puts the two readings side by side. Main statements: of each reader, what it makes of the
second case. Most of them find nothing there that they can use; the others leave nothing behind
that closes a group.
-/

namespace FlagHost.Pattern

open Unicode

/-- What stands behind the text. -/
def closing : List Char := [')', '$']

/-- What is left has nothing of the text. -/
def Spent (rest : List Char) : Prop := rest <:+ closing

/-- What is left has nothing of the text, nor the closing parenthesis. -/
def Overrun (rest : List Char) : Prop := rest <:+ ['$']

/-- What is read of `cs` alone, and of `cs` with `closing` behind it. -/
inductive Agrees {α : Type} (astray : α → List Char → Prop) (cs : List Char) :
    Option (α × List Char) → Option (α × List Char) → Prop where
  /-- The same is read, and what is behind the text is left. -/
  | kept {x : α} {rest : List Char} (suffix : rest <:+ cs) :
      Agrees astray cs (some (x, rest)) (some (x, rest ++ closing))
  /-- The same is read, and what is behind the text belongs to a comment. -/
  | swallowed {x : α} (hash : '#' ∈ cs) : Agrees astray cs (some (x, [])) (some (x, []))
  /-- The text alone cannot be read; a reader that goes on goes astray. -/
  | refused {o : Option (α × List Char)} (stray : ∀ x rest, o = some (x, rest) → astray x rest) :
      Agrees astray cs none o

/-- The reader does not go astray. -/
def Never {α : Type} (_ : α) (_ : List Char) : Prop := False

namespace Agrees

variable {α β γ : Type} {astray : α → List Char → Prop} {astray' : β → List Char → Prop}
  {cs l : List Char} {o o' : Option (α × List Char)}

theorem none : Agrees astray cs none none := .refused fun _ _ h => nomatch h

theorem beyond {x : α} {rest : List Char} (stray : astray x rest) :
    Agrees astray cs Option.none (some (x, rest)) := by
  refine .refused ?_
  rintro _ _ ⟨⟩
  exact stray

theorem suffix (h : Agrees astray cs o o') {x : α} {rest : List Char}
    (read : o = some (x, rest)) : rest <:+ cs := by
  cases h with
  | kept suffix => obtain ⟨rfl, rfl⟩ := Prod.mk.inj (Option.some.inj read); exact suffix
  | swallowed => obtain ⟨rfl, rfl⟩ := Prod.mk.inj (Option.some.inj read); exact List.nil_suffix
  | refused => exact nomatch read

theorem mono (h : Agrees astray l o o') (suffix : l <:+ cs) : Agrees astray cs o o' := by
  cases h with
  | kept suffix' => exact .kept (suffix'.trans suffix)
  | swallowed hash => exact .swallowed (suffix.subset hash)
  | refused stray => exact .refused stray

theorem imp {astray' : α → List Char → Prop} (h : Agrees astray cs o o')
    (stray : ∀ x rest, astray x rest → astray' x rest) : Agrees astray' cs o o' := by
  cases h with
  | kept suffix => exact .kept suffix
  | swallowed hash => exact .swallowed hash
  | refused stray' => exact .refused fun x rest read => stray x rest (stray' x rest read)

/-- What is read where nothing is left agrees with itself. -/
theorem self (h : Agrees astray [] o o') (astray' : α → List Char → Prop) (hash : '#' ∈ cs) :
    Agrees astray' cs o o := by
  match o, h with
  | Option.none, _ => exact none
  | some (x, rest), h =>
    obtain rfl := List.suffix_nil.1 (h.suffix rfl)
    exact .swallowed hash

theorem bind (h : Agrees astray l o o') {k k' : α × List Char → Option (β × List Char)}
    (kept : ∀ x rest, rest <:+ l → Agrees astray' cs (k (x, rest)) (k' (x, rest ++ closing)))
    (swallowed : ∀ x, '#' ∈ l → Agrees astray' cs (k (x, [])) (k' (x, [])))
    (refused : ∀ x rest, astray x rest →
      ∀ y rest', k' (x, rest) = some (y, rest') → astray' y rest') :
    Agrees astray' cs (o.bind k) (o'.bind k') := by
  cases h with
  | kept suffix => exact kept _ _ suffix
  | swallowed hash => exact swallowed _ hash
  | refused stray =>
    refine .refused fun y rest' h => ?_
    obtain ⟨⟨x, rest⟩, read, h⟩ := Option.bind_eq_some_iff.1 h
    exact refused x rest (stray x rest read) y rest' h

/-- What is looked up before anything is read is the same for both. -/
theorem bind_option {x : Option γ} {k k' : γ → Option (β × List Char)}
    (h : ∀ y, x = some y → Agrees astray' cs (k y) (k' y)) :
    Agrees astray' cs (x.bind k) (x.bind k') := by
  cases x with
  | none => exact none
  | some y => exact h y rfl

/-- What is looked up without reading on is the same for both. -/
theorem map_option {x : Option γ} (f : γ → β) (suffix : l <:+ cs) :
    Agrees astray' cs (x.map fun y => (f y, l)) (x.map fun y => (f y, l ++ closing)) := by
  cases x with
  | none => exact none
  | some y => exact kept suffix

theorem bind_map (h : Agrees astray l o o') (suffix : l <:+ cs) (g : α → Option β)
    (stray : ∀ x y rest, g x = some y → astray x rest → astray' y rest) :
    Agrees astray' cs (o.bind fun r => (g r.1).map (·, r.2))
      (o'.bind fun r => (g r.1).map (·, r.2)) := by
  refine h.bind (fun x rest suffix' => ?_) (fun x hash => ?_) fun x rest stray' y rest' read => ?_
  · dsimp only
    cases g x with
    | none => exact none
    | some y => exact .kept (suffix'.trans suffix)
  · dsimp only
    cases g x with
    | none => exact none
    | some y => exact .swallowed (suffix.subset hash)
  · obtain ⟨z, some_z, same⟩ := Option.map_eq_some_iff.1 read
    obtain ⟨rfl, rfl⟩ := Prod.mk.inj same
    exact stray x z rest some_z stray'

theorem map (h : Agrees astray l o o') (suffix : l <:+ cs) (f : α → β)
    (stray : ∀ x rest, astray x rest → astray' (f x) rest) :
    Agrees astray' cs (o.map fun r => (f r.1, r.2)) (o'.map fun r => (f r.1, r.2)) := by
  have all : Agrees astray' cs _ _ := h.bind_map suffix (fun x => some (f x)) ?_
  · simpa [Option.map_eq_bind, Function.comp_def] using all
  · rintro x _ rest ⟨⟩ stray'
    exact stray x rest stray'

end Agrees

/-! ## Blanks and comments -/

section Blanks

variable {options : Options} {c : Char} {rest : List Char}

theorem Overrun.spent (h : Overrun rest) : Spent rest := h.trans (List.suffix_cons _ _)

theorem Spent.overrun (h : Spent (c :: rest)) : Overrun rest := by
  rcases List.suffix_cons_iff.1 h with same | suffix
  · obtain ⟨-, rfl⟩ := List.cons_eq_cons.1 same
    exact List.suffix_rfl
  · exact (List.suffix_cons _ _).trans suffix

theorem Spent.mem (h : Spent (c :: rest)) : c = ')' ∨ c = '$' := by
  simpa [closing] using List.IsSuffix.subset h List.mem_cons_self

theorem skip_of_not_blank (options : Options) (rest : List Char) (hash : c ≠ '#')
    (blank : Property.whiteSpace.has c = false) : options.skip (c :: rest) = c :: rest := by
  simp [Options.skip, Options.skipBlanks, hash, blank]

@[simp] theorem skip_nil (options : Options) : options.skip [] = [] := by
  simp [Options.skip, Options.skipBlanks]

theorem Spent.skip (h : Spent rest) (options : Options) : options.skip rest = rest := by
  cases rest with
  | nil => simp
  | cons c rest =>
    rcases h.mem with rfl | rfl <;>
      exact skip_of_not_blank options rest (by decide) (by decide +kernel)

theorem skipBlanks_suffix (inComment : Bool) (cs : List Char) :
    Options.skipBlanks inComment cs <:+ cs := by
  induction cs generalizing inComment with
  | nil => simp [Options.skipBlanks]
  | cons c cs ih =>
    unfold Options.skipBlanks
    split
    · exact (ih _).trans (List.suffix_cons _ _)
    · split
      · exact (ih _).trans (List.suffix_cons _ _)
      · split
        · exact (ih _).trans (List.suffix_cons _ _)
        · exact List.suffix_rfl

theorem skip_suffix (options : Options) (cs : List Char) : options.skip cs <:+ cs := by
  unfold Options.skip
  split
  · exact skipBlanks_suffix false cs
  · exact List.suffix_rfl

theorem skipBlanks_append (inComment : Bool) (cs : List Char) :
    Options.skipBlanks inComment (cs ++ closing) =
        Options.skipBlanks inComment cs ++ closing ∨
      (inComment = true ∨ '#' ∈ cs) ∧ Options.skipBlanks inComment cs = [] ∧
        Options.skipBlanks inComment (cs ++ closing) = [] := by
  induction cs generalizing inComment with
  | nil =>
    cases inComment
    · have same : Options.skip { spaced := true } closing = closing := Spent.skip List.suffix_rfl _
      exact .inl same
    · exact .inr ⟨.inl rfl, rfl, rfl⟩
  | cons c cs ih =>
    rw [List.cons_append, Options.skipBlanks, Options.skipBlanks]
    split
    · next comment => exact (ih _).imp_right fun h => ⟨.inl comment, h.2⟩
    · split
      · next hash => exact (ih _).imp_right fun h => ⟨.inr (hash ▸ List.mem_cons_self), h.2⟩
      · split
        · exact (ih _).imp_right fun h => ⟨.inr (List.mem_cons_of_mem c (by simpa using h.1)), h.2⟩
        · exact .inl rfl

/-- What is left behind blanks has `closing` behind it, unless the blanks end in a comment. -/
theorem skip_append (options : Options) (cs : List Char) :
    options.skip (cs ++ closing) = options.skip cs ++ closing ∨
      '#' ∈ cs ∧ options.skip cs = [] ∧ options.skip (cs ++ closing) = [] := by
  unfold Options.skip
  split
  · simpa using skipBlanks_append false cs
  · exact .inl rfl

/-- A reader that passes over blanks first agrees as it does behind them. -/
theorem Agrees.skip {α : Type} {astray : α → List Char → Prop} (options : Options)
    {f g : List Char → Option (α × List Char)} (cs : List Char) (nothing : g [] = f [])
    (h : ∀ l, l <:+ cs → Agrees astray l (f l) (g (l ++ closing))) :
    Agrees astray cs (f (options.skip cs)) (g (options.skip (cs ++ closing))) := by
  rcases skip_append options cs with skip | ⟨hash, skip, skip'⟩
  · rw [skip]
    exact (h _ (skip_suffix options cs)).mono (skip_suffix options cs)
  · rw [skip, skip', nothing]
    exact (h [] List.nil_suffix).self astray hash

end Blanks

/-! ## Escapes -/

section Escapes

variable {options : Options}

theorem takeSpaced_agrees (options : Options) (n : Nat) (cs : List Char) :
    Agrees (fun _ => Overrun) cs (takeSpaced options n cs)
      (takeSpaced options n (cs ++ closing)) := by
  induction n generalizing cs with
  | zero => exact .kept List.suffix_rfl
  | succ n ih =>
    cases cs with
    | nil =>
      -- The parenthesis is taken for one of the characters.
      refine .refused fun ds rest read => ?_
      simp only [List.nil_append, closing, takeSpaced, Option.bind_eq_bind,
        Option.bind_eq_some_iff] at read
      obtain ⟨⟨more, rest'⟩, read, same⟩ := read
      obtain ⟨-, rfl⟩ := Prod.mk.inj (Option.some.inj same)
      exact ((ih _).suffix read).trans (skip_suffix options _)
    | cons c cs =>
      have more := Agrees.skip options cs rfl fun l _ => ih l
      exact more.bind_map (List.suffix_cons c cs) (fun ds => some (c :: ds))
        fun _ _ _ _ stray => stray

/-- Reads up to a closing brace, behind blanks. -/
def bracedFrom (options : Options) : List Char → Option (List Char × List Char)
  | [] => none
  | c :: rest =>
    if c = '\x7d' then some ([], rest)
    else (takeBraced options rest).map fun r => (c :: r.1, r.2)

theorem takeBraced_eq (options : Options) (cs : List Char) :
    takeBraced options cs = bracedFrom options (options.skip cs) := by
  rw [takeBraced]
  split
  · next eq => rw [eq, bracedFrom]
  · next c rest eq => simp [eq, bracedFrom, Option.map_eq_bind]

/-- There is no closing brace behind the text. -/
theorem Spent.takeBraced {cs : List Char} (h : Spent cs) : takeBraced options cs = none := by
  induction cs with
  | nil => simp [takeBraced_eq, bracedFrom]
  | cons c cs ih =>
    have other : c ≠ '\x7d' := by rcases h.mem with rfl | rfl <;> decide
    rw [takeBraced_eq, h.skip]
    simp [bracedFrom, other, ih h.overrun.spent]

theorem takeBraced_agrees (cs : List Char) :
    Agrees Never cs (takeBraced options cs) (takeBraced options (cs ++ closing)) := by
  induction h : cs.length using Nat.strongRecOn generalizing cs with
  | _ n ih =>
    subst h
    rw [takeBraced_eq, takeBraced_eq options (cs ++ closing)]
    refine Agrees.skip options (f := bracedFrom options) cs rfl fun l suffix => ?_
    rcases l with _ | ⟨c, l⟩
    · have unclosed : bracedFrom options closing = none := by
        rw [← Spent.skip List.suffix_rfl options, ← takeBraced_eq,
          Spent.takeBraced List.suffix_rfl]
      rw [List.nil_append, unclosed]
      exact .none
    · by_cases brace : c = '\x7d'
      · simpa [bracedFrom, brace] using Agrees.kept (List.suffix_cons c l)
      · have more := ih l.length suffix.length_le l rfl
        simpa [bracedFrom, brace] using more.map (List.suffix_cons c l) (c :: ·) fun _ _ h => h

/-- The character that hexadecimal digits stand for. -/
def hexLiteral? (digits : Nat) (braced : Bool) (written : List Char) : Option Literal :=
  if written.isEmpty then none
  else ((Digit.number? 16 written).bind Utf8.char?).map (⟨·, digits = 2 && !braced⟩)

/-- Reads hexadecimal digits, behind blanks. -/
def hexFrom (options : Options) (digits : Nat) : List Char → Option (Literal × List Char)
  | '\x7b' :: cs => (takeBraced options cs).bind fun r =>
    (hexLiteral? digits true r.1).map (·, r.2)
  | cs => (takeSpaced options digits cs).bind fun r =>
    (hexLiteral? digits false r.1).map (·, r.2)

theorem readHex_eq (options : Options) (digits : Nat) (cs : List Char) :
    readHex options digits cs = hexFrom options digits (options.skip cs) := by
  have finish (braced : Bool) (r : List Char × List Char) :
      (hexLiteral? digits braced r.1).map (·, r.2) =
        if r.1 = [] then none else ((Digit.number? 16 r.1).bind Utf8.char?).bind fun c =>
          some (⟨c, digits = 2 && !braced⟩, r.2) := by
    unfold hexLiteral?
    by_cases nothing : r.1 = []
    · simp [nothing]
    · simp [nothing, Option.map_eq_bind, Option.bind_assoc]
  unfold readHex hexFrom
  simp only [finish]
  generalize options.skip cs = l
  rcases l with _ | ⟨c, l⟩
  · simp [Option.bind_map]
  · by_cases brace : c = '\x7b' <;> simp [brace, Option.bind_map]

theorem readHex_agrees (digits : Nat) (cs : List Char) :
    Agrees (fun _ => Overrun) cs (readHex options digits cs)
      (readHex options digits (cs ++ closing)) := by
  rw [readHex_eq, readHex_eq]
  refine Agrees.skip options (f := hexFrom options digits) cs rfl fun l _ => ?_
  have plain := (takeSpaced_agrees options digits l).bind_map List.suffix_rfl
    (hexLiteral? digits false) fun _ _ _ _ stray => stray
  rcases l with _ | ⟨c, l⟩
  · exact plain
  · by_cases brace : c = '\x7b'
    · subst brace
      exact (takeBraced_agrees l).bind_map (List.suffix_cons _ l) _ fun _ _ _ _ h => h.elim
    · simpa [hexFrom, brace] using plain

/-- The set that a name stands for, or its complement. -/
def settled? (options : Options) (negated : Bool) (name : List Char) : Option CodeSet :=
  if !options.unicode then none
  else (namedSet? name).bind fun r => options.settle (negated != r.2) (options.fold r.1)

/-- Reads the name of a set, behind blanks. -/
def nameFrom (options : Options) : List Char → Option (List Char × List Char)
  | [] => none
  | '\x7b' :: cs => takeBraced options cs
  | c :: cs => if c = '\\' then none else some ([c], cs)

theorem readNamedSet_eq (options : Options) (negated : Bool) (cs : List Char) :
    readNamedSet options negated cs =
      (nameFrom options (options.skip cs)).bind fun r =>
        (settled? options negated r.1).map (·, r.2) := by
  have finish (r : List Char × List Char) :
      (settled? options negated r.1).map (·, r.2) =
        if !options.unicode then none else (namedSet? r.1).bind fun s =>
          (options.settle (negated != s.2) (options.fold s.1)).bind fun set => some (set, r.2) := by
    unfold settled?
    cases options.unicode <;> simp [Option.map_eq_bind, Option.bind_assoc]
  unfold readNamedSet nameFrom
  simp only [finish]
  generalize options.skip cs = l
  rcases l with _ | ⟨c, l⟩
  · rfl
  · by_cases slash : c = '\\'
    · simp [slash]
    · by_cases brace : c = '\x7b' <;> simp [brace, slash]

theorem readNamedSet_agrees (negated : Bool) (cs : List Char) :
    Agrees (fun _ => Overrun) cs (readNamedSet options negated cs)
      (readNamedSet options negated (cs ++ closing)) := by
  rw [readNamedSet_eq, readNamedSet_eq]
  have name : Agrees (fun _ => Overrun) cs (nameFrom options (options.skip cs))
      (nameFrom options (options.skip (cs ++ closing))) := by
    refine Agrees.skip options (f := nameFrom options) cs rfl fun l _ => ?_
    rcases l with _ | ⟨c, l⟩
    · exact .beyond List.suffix_rfl
    · by_cases brace : c = '\x7b'
      · subst brace
        exact ((takeBraced_agrees l).mono (List.suffix_cons _ l)).imp fun _ _ h => h.elim
      · by_cases slash : c = '\\'
        · simpa [nameFrom, slash] using Agrees.none
        · simpa [nameFrom, brace, slash] using Agrees.kept (List.suffix_cons c l)
  exact name.bind_map List.suffix_rfl _ fun _ _ _ _ stray => stray

/-- A brace is left that nothing of the text follows, blanks apart. -/
def InBrace (options : Options) (rest : List Char) : Prop :=
  ∃ blanks, rest = '\x7b' :: blanks ∧ Spent (options.skip blanks)

/-- The kind of a word look that a name stands for. -/
def wordSide? (name : List Char) : Option WordSide :=
  match String.ofList name with
  | "start" => some .start
  | "end" => some .stop
  | "start-half" => some .startHalf
  | "end-half" => some .stopHalf
  | _ => none

theorem readWordLook_brace (options : Options) (cs : List Char) :
    readWordLook options ('\x7b' :: cs) = match options.skip cs with
      | [] => none
      | c :: _ =>
        if !(c.isAlpha || c = '-') then some (.edge, '\x7b' :: cs)
        else (takeBraced options cs).bind fun r => (wordSide? r.1).map (·, r.2) := by
  have finish (r : List Char × List Char) : (wordSide? r.1).map (·, r.2) =
      match String.ofList r.1 with
      | "start" => some (.start, r.2)
      | "end" => some (.stop, r.2)
      | "start-half" => some (.startHalf, r.2)
      | "end-half" => some (.stopHalf, r.2)
      | _ => none := by
    unfold wordSide?
    split <;> rfl
  simp only [finish]
  rfl

theorem readWordLook_of_ne (options : Options) {c : Char} (cs : List Char) (brace : c ≠ '\x7b') :
    readWordLook options (c :: cs) = some (.edge, c :: cs) := by
  simp [readWordLook, brace]

theorem readWordLook_agrees (cs : List Char) :
    Agrees (fun _ => InBrace options) cs (readWordLook options cs)
      (readWordLook options (cs ++ closing)) := by
  rcases cs with _ | ⟨c, cs⟩
  · rw [List.nil_append, closing, readWordLook_of_ne options _ (by decide)]
    exact .kept List.suffix_rfl
  · by_cases brace : c = '\x7b'
    · subst brace
      rw [List.cons_append, readWordLook_brace, readWordLook_brace]
      rcases skip_append options cs with skip | ⟨-, skip, skip'⟩
      · rw [skip]
        cases first : options.skip cs with
        | nil =>
          -- The parenthesis stands where a name would, and so the brace is left.
          refine .beyond ⟨_, rfl, ?_⟩
          rw [skip, first]
          exact List.suffix_rfl
        | cons c l =>
          dsimp only [List.cons_append]
          split
          · exact .kept List.suffix_rfl
          · exact (takeBraced_agrees cs).bind_map (List.suffix_cons _ cs) _
              fun _ _ _ _ h => h.elim
      · rw [skip, skip']
        exact .none
    · rw [List.cons_append, readWordLook_of_ne options _ brace, readWordLook_of_ne options _ brace]
      exact .kept List.suffix_rfl

/-- What `readEscape` may leave if the text ends too early. -/
def AstrayEscape (options : Options) (p : Primitive) (rest : List Char) : Prop :=
  Overrun rest ∨ (∃ l, p = .look l) ∧ InBrace options rest

theorem readEscape_agrees (cs : List Char) :
    Agrees (AstrayEscape options) cs (readEscape options cs)
      (readEscape options (cs ++ closing)) := by
  rcases cs with _ | ⟨c, cs⟩
  · have closes : readEscape options closing = some (.literal ⟨')', false⟩, ['$']) := rfl
    rw [List.nil_append, closes]
    exact .beyond (.inl List.suffix_rfl)
  · have suffix : cs <:+ c :: cs := List.suffix_cons c cs
    rw [List.cons_append]
    unfold readEscape
    dsimp only
    split
    · exact (readHex_agrees 2 cs).map suffix Primitive.literal fun _ _ h => Or.inl h
    · exact (readHex_agrees 4 cs).map suffix Primitive.literal fun _ _ h => Or.inl h
    · exact (readHex_agrees 8 cs).map suffix Primitive.literal fun _ _ h => Or.inl h
    iterate 2 exact (readNamedSet_agrees _ cs).map suffix Primitive.set fun _ _ h => Or.inl h
    iterate 6 exact .map_option Primitive.set suffix
    iterate 8 exact .kept suffix
    · exact (readWordLook_agrees cs).map suffix (fun side => Primitive.look (.word side _))
        fun _ _ h => Or.inr ⟨⟨_, rfl⟩, h⟩
    iterate 3 exact .kept suffix
    · split
      · exact .kept suffix
      · exact .none

end Escapes

end FlagHost.Pattern

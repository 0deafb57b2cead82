import FlagHost.Proofs.Brackets

/-!
# Parts at the start of a text

What is read of one part of a pattern in a text that stands alone, and in the text with a closing
parenthesis behind it. The parenthesis is read with a part only if the text alone ends within that
part, as behind a backslash or among the options of a group. What is left then closes nothing.
-/

namespace FlagHost.Pattern

open Unicode

variable {options : Options} {state : State}

/-! ## Groups -/

theorem readName_agrees (cs : List Char) :
    Agrees Never cs (readName cs) (readName (cs ++ closing)) := by
  unfold readName
  rcases span_cases '>' (by decide) cs with
    ⟨rest, suffix, own, taken, dropped⟩ | ⟨own, dropped⟩
  · rw [own, taken, dropped]
    rcases cs.takeWhile (· ≠ '>') with _ | ⟨c, more⟩
    · exact .none
    · dsimp only
      split
      · exact .kept ((List.suffix_cons _ rest).trans suffix)
      · exact .none
  · rw [own, dropped]
    simpa using Agrees.none

theorem takeWhile_append_closing (p : Char → Bool) (stop : p ')' = false) (l : List Char) :
    (l ++ closing).takeWhile p = l.takeWhile p := by
  rw [List.takeWhile_append]
  split
  · next all => simpa [closing, stop] using (List.takeWhile_prefix p).eq_of_length all |>.symm
  · rfl

/-- Reads options behind the question mark of a group. -/
def readOptions (state : State) (l : List Char) : Option (State × List Char) :=
  (state.options.apply true [] (l.takeWhile fun c => c ≠ ':' && c ≠ ')')).bind fun options =>
    match l.dropWhile fun c => c ≠ ':' && c ≠ ')' with
    | ':' :: rest => some (state.enter false options, rest)
    | ')' :: rest =>
      if (l.takeWhile fun c => c ≠ ':' && c ≠ ')').isEmpty then none
      else some ({ state with options := options }.add ⟨.empty, 0, true⟩, rest)
    | _ => none

theorem readOptions_agrees (l : List Char) :
    Agrees (fun _ => Overrun) l (readOptions state l) (readOptions state (l ++ closing)) := by
  let p (c : Char) : Bool := c ≠ ':' && c ≠ ')'
  have taken : (l ++ closing).takeWhile p = l.takeWhile p := takeWhile_append_closing p rfl l
  have dropped : (l ++ closing).dropWhile p = l.dropWhile p ++ closing :=
    dropWhile_append_closing p rfl l
  unfold readOptions
  rw [taken, dropped]
  refine .bind_option fun options _ => ?_
  have suffix : l.dropWhile p <:+ l := List.dropWhile_suffix p
  generalize l.dropWhile p = left at suffix ⊢
  rcases left with _ | ⟨c, rest⟩
  · refine .refused fun state' rest read => ?_
    simp only [List.nil_append, closing] at read
    split at read
    · cases read
    · obtain ⟨-, rfl⟩ := Prod.mk.inj (Option.some.inj read)
      exact List.suffix_rfl
  · have inner : rest <:+ l := (List.suffix_cons c rest).trans suffix
    by_cases colon : c = ':'
    · subst colon
      exact .kept inner
    by_cases closes : c = ')'
    · subst closes
      simp only [List.cons_append]
      split
      · exact .none
      · exact .kept inner
    · simpa [colon, closes] using Agrees.none

/-- Opens a group with a name that is not taken. -/
def State.enterNamed? (state : State) (name : String) : Option State :=
  if state.names.contains name then none
  else some ({ state with names := name :: state.names }.enter true state.options)

theorem named_eq (state : State) (cs : List Char) : readOpenGroup.named state cs =
    (readName cs).bind fun r => (state.enterNamed? r.1).map (·, r.2) := by
  unfold readOpenGroup.named
  refine congrArg _ (funext fun ⟨name, rest⟩ => ?_)
  dsimp only [State.enterNamed?]
  split <;> rfl

theorem named_agrees (state : State) (cs : List Char) :
    Agrees Never cs (readOpenGroup.named state cs) (readOpenGroup.named state (cs ++ closing)) := by
  rw [named_eq, named_eq]
  exact (readName_agrees cs).bind_map List.suffix_rfl state.enterNamed? fun _ _ _ _ h => h.elim

/-- What starts a group whose name comes next. -/
def named? : List Char → Option (List Char)
  | '<' :: rest => some rest
  | 'P' :: '<' :: rest => some rest
  | _ => none

/-- Reads what opens a group, behind blanks. -/
def groupFrom (state : State) : List Char → Option (State × List Char)
  | '?' :: rest =>
    match named? rest with
    | some rest => readOpenGroup.named state rest
    | none => readOptions state rest
  | l => some (state.enter true state.options, l)

theorem readOpenGroup_eq (state : State) (cs : List Char) :
    readOpenGroup state cs = groupFrom state (state.options.skip cs) := by
  unfold readOpenGroup groupFrom
  generalize state.options.skip cs = l
  split
  · rfl
  · rfl
  · next rest unlike_P unlike =>
    have other : named? rest = none := by
      unfold named?
      split <;> simp_all
    have options : readOptions state rest = match named? rest with
        | some rest => readOpenGroup.named state rest
        | none => readOptions state rest := by
      rw [other]
    refine Eq.trans ?_ options
    unfold readOptions
    dsimp only
    rw [drop_takeWhile]
    rfl
  · next unnamed =>
    split
    · exact absurd rfl (unnamed _)
    · rfl

theorem named?_append {l rest : List Char} (named : named? l = some rest) :
    rest <:+ l ∧ named? (l ++ closing) = some (rest ++ closing) := by
  unfold named? at named
  split at named
  · obtain rfl := Option.some.inj named
    exact ⟨List.suffix_cons _ _, rfl⟩
  · obtain rfl := Option.some.inj named
    exact ⟨(List.suffix_cons _ _).trans (List.suffix_cons _ _), rfl⟩
  · exact nomatch named

theorem named?_append_eq_none {l : List Char} (unnamed : named? l = none) :
    named? (l ++ closing) = none := by
  rcases l with _ | ⟨c, l⟩
  · rfl
  · rcases l with _ | ⟨d, l⟩
    · unfold named? at unnamed ⊢
      split <;> simp_all [closing]
    · unfold named? at unnamed ⊢
      split <;> simp_all

theorem readOpenGroup_agrees (cs : List Char) :
    Agrees (fun _ => Overrun) cs (readOpenGroup state cs)
      (readOpenGroup state (cs ++ closing)) := by
  rw [readOpenGroup_eq, readOpenGroup_eq]
  refine Agrees.skip state.options (f := groupFrom state) cs rfl fun l _ => ?_
  rcases l with _ | ⟨c, l⟩
  · exact .kept List.suffix_rfl
  · by_cases mark : c = '?'
    · subst mark
      simp only [List.cons_append, groupFrom]
      cases named : named? l with
      | none =>
        rw [named?_append_eq_none named]
        exact (readOptions_agrees l).mono (List.suffix_cons _ l)
      | some rest =>
        obtain ⟨suffix, named'⟩ := named?_append named
        rw [named']
        have agrees := (named_agrees state rest).mono (suffix.trans (List.suffix_cons '?' l))
        exact agrees.imp fun _ _ h => h.elim
    · have plain (l' : List Char) :
          groupFrom state (c :: l') = some (state.enter true state.options, c :: l') := by
        simp [groupFrom, mark]
      rw [List.cons_append, plain, plain]
      exact .kept List.suffix_rfl

/-! ## Repetitions -/

theorem skipLazy_append (l : List Char) : skipLazy (l ++ closing) = skipLazy l ++ closing := by
  rcases l with _ | ⟨c, l⟩
  · rfl
  · by_cases mark : c = '?' <;> simp [skipLazy, mark]

theorem skipLazy_suffix (l : List Char) : skipLazy l <:+ l := by
  unfold skipLazy
  split
  · exact List.suffix_cons _ _
  · exact List.suffix_rfl

theorem takeDigits_nil (options : Options) (fuel : Nat) :
    takeDigits options fuel [] = ([], []) := by
  cases fuel <;> rfl

theorem takeDigits_cons (options : Options) (fuel : Nat) (c : Char) (cs : List Char) :
    some (takeDigits options (fuel + 1) (c :: cs)) =
      if c.isDigit then (some (takeDigits options fuel (options.skip cs))).map
        fun r => (c :: r.1, r.2)
      else some ([], c :: cs) := by
  rw [takeDigits]
  split <;> rfl

theorem takeDigits_agrees (options : Options) {fuel fuel' : Nat} (cs : List Char)
    (enough : cs.length ≤ fuel) (enough' : (cs ++ closing).length ≤ fuel') :
    Agrees Never cs (some (takeDigits options fuel cs))
      (some (takeDigits options fuel' (cs ++ closing))) := by
  have nothing {fuel fuel' : Nat} (enough' : closing.length ≤ fuel') :
      Agrees Never [] (some (takeDigits options fuel []))
        (some (takeDigits options fuel' ([] ++ closing))) := by
    obtain ⟨fuel', rfl⟩ := Nat.exists_eq_add_of_le' enough'
    rw [takeDigits_nil]
    exact .kept List.suffix_rfl
  induction fuel generalizing fuel' cs with
  | zero =>
    obtain rfl := List.length_eq_zero_iff.1 (Nat.le_zero.1 enough)
    exact nothing enough'
  | succ fuel ih =>
    cases cs with
    | nil => exact nothing enough'
    | cons c cs =>
      obtain ⟨fuel', rfl⟩ : ∃ n, fuel' = n + 1 :=
        Nat.exists_eq_add_of_le' (Nat.le_trans (by simp) enough')
      rw [List.cons_append, takeDigits_cons, takeDigits_cons]
      split
      · have behind := Agrees.skip options (f := fun l => some (takeDigits options fuel l))
          (g := fun l => some (takeDigits options fuel' l)) cs (by simp [takeDigits_nil])
          fun l suffix => by
            have le := suffix.length_le
            simp only [List.cons_append, List.length_cons, List.length_append] at enough enough'
            exact ih l (by omega) (by rw [List.length_append]; omega)
        exact behind.map (List.suffix_cons c cs) (c :: ·) fun _ _ h => h
      · exact .kept List.suffix_rfl

theorem readCount_eq (options : Options) (cs : List Char) :
    readCount options cs =
      (some (takeDigits options cs.length (cs.dropWhile Property.whiteSpace.has))).bind fun r =>
        if r.1.isEmpty || 0x100000000 ≤ Digit.decimal r.1 then none
        else some (Digit.decimal r.1, r.2.dropWhile Property.whiteSpace.has) := rfl

theorem readCount_agrees (cs : List Char) :
    Agrees Never cs (readCount options cs) (readCount options (cs ++ closing)) := by
  let isBlank := Property.whiteSpace.has
  have drops (l : List Char) : (l ++ closing).dropWhile isBlank = l.dropWhile isBlank ++ closing :=
    dropWhile_append_closing isBlank (by decide +kernel) l
  rw [readCount_eq, readCount_eq, drops]
  have suffix : cs.dropWhile isBlank <:+ cs := List.dropWhile_suffix isBlank
  have le := suffix.length_le
  have le' : (cs.dropWhile isBlank ++ closing).length ≤ (cs ++ closing).length := by simpa using le
  refine (takeDigits_agrees options (cs.dropWhile isBlank) le le').bind
    (fun ds rest suffix' => ?_) (fun ds hash => ?_) fun _ _ h => h.elim
  · dsimp only
    rw [drops]
    split
    · exact .none
    · exact .kept ((List.dropWhile_suffix isBlank).trans (suffix'.trans suffix))
  · dsimp only
    split
    · exact .none
    · exact .swallowed (suffix.subset hash)

/-- No digits are left where nothing of the text is. -/
theorem Spent.readCount {cs : List Char} (h : Spent cs) : readCount options cs = none := by
  cases cs with
  | nil => rfl
  | cons c cs =>
    have blank : Property.whiteSpace.has c = false := by
      rcases h.mem with rfl | rfl <;> decide +kernel
    have digit : c.isDigit = false := by rcases h.mem with rfl | rfl <;> decide
    simp [Pattern.readCount, takeDigits, blank, digit]

/-- Reads the upper count of a repetition behind the comma and blanks; there may be none. -/
def mostFrom (options : Options) (l : List Char) : Option (Option Nat × List Char) :=
  if l.head? = some '\x7d' then some (none, l)
  else (readCount options l).map fun r => (some r.1, r.2)

/-- Reads the upper count of a repetition. Where there is no comma, it is the lower one. -/
def readMost (options : Options) (least : Nat) : List Char → Option (Option Nat × List Char)
  | ',' :: rest => mostFrom options (options.skip rest)
  | l => some (some least, l)

/-- Closes a repetition. -/
def closeCounts (options : Options) (least : Nat) (most : Option Nat) (l : List Char) :
    Option ((Nat × Option Nat) × List Char) :=
  match l with
  | '\x7d' :: rest =>
    if most.all (least ≤ ·) then some ((least, most), skipLazy (options.skip rest)) else none
  | _ => none

theorem readCounts_eq (options : Options) (cs : List Char) :
    (readCounts options cs).map (fun r => ((r.1, r.2.1), r.2.2)) =
      (readCount options (options.skip cs)).bind fun least =>
        (readMost options least.1 least.2).bind fun most =>
          closeCounts options least.1 most.1 most.2 := by
  have finish (least : Nat) (most : Option Nat) (l : List Char) :
      Option.map (fun r : Nat × Option Nat × List Char => ((r.1, r.2.1), r.2.2)) (match l with
        | '\x7d' :: rest =>
          if most.all (least ≤ ·) then some (least, most, skipLazy (options.skip rest)) else none
        | _ => none) = closeCounts options least most l := by
    unfold closeCounts
    split
    · split <;> rfl
    · rfl
  unfold readCounts
  cases readCount options (options.skip cs) with
  | none => rfl
  | some least =>
    obtain ⟨least, rest⟩ := least
    simp only [Option.bind_eq_bind, Option.bind_some]
    split
    · next rest =>
      rw [readMost, mostFrom]
      split
      · exact finish least none _
      · cases readCount options (options.skip rest) with
        | none => rfl
        | some most => exact finish least (some most.1) most.2
    · next other =>
      have plain : readMost options least rest = some (some least, rest) := by
        unfold readMost
        split
        · exact absurd rfl (other _)
        · rfl
      rw [plain]
      exact finish least (some least) rest

theorem mostFrom_agrees (l : List Char) :
    Agrees Never l (mostFrom options l) (mostFrom options (l ++ closing)) := by
  have head : (l ++ closing).head? = some '\x7d' ↔ l.head? = some '\x7d' := by
    cases l <;> simp [closing]
  simp only [mostFrom, head]
  split
  · exact .kept List.suffix_rfl
  · exact (readCount_agrees l).map List.suffix_rfl some fun _ _ h => h

theorem readMost_agrees (least : Nat) (l : List Char) :
    Agrees Never l (readMost options least l) (readMost options least (l ++ closing)) := by
  rcases l with _ | ⟨c, l⟩
  · exact .kept List.suffix_rfl
  · by_cases comma : c = ','
    · subst comma
      have behind := Agrees.skip options (f := mostFrom options) l rfl
        fun l _ => mostFrom_agrees l
      exact behind.mono (List.suffix_cons _ l)
    · have plain (l' : List Char) :
          readMost options least (c :: l') = some (some least, c :: l') := by
        simp [readMost, comma]
      rw [List.cons_append, plain, plain]
      exact .kept List.suffix_rfl

theorem closeCounts_agrees (least : Nat) (most : Option Nat) (l : List Char) :
    Agrees Never l (closeCounts options least most l)
      (closeCounts options least most (l ++ closing)) := by
  rcases l with _ | ⟨c, l⟩
  · exact .none
  · by_cases brace : c = '\x7d'
    · subst brace
      simp only [List.cons_append, closeCounts]
      split
      · rcases skip_append options l with skip | ⟨hash, skip, skip'⟩
        · rw [skip, skipLazy_append]
          have suffix : skipLazy (options.skip l) <:+ l :=
            (skipLazy_suffix _).trans (skip_suffix options l)
          exact .kept (suffix.trans (List.suffix_cons _ l))
        · rw [skip, skip']
          exact .swallowed (List.mem_cons_of_mem _ hash)
      · exact .none
    · simpa [closeCounts, brace] using Agrees.none

theorem readCounts_agrees (options : Options) (cs : List Char) :
    Agrees Never cs ((readCounts options cs).map fun r => ((r.1, r.2.1), r.2.2))
      ((readCounts options (cs ++ closing)).map fun r => ((r.1, r.2.1), r.2.2)) := by
  rw [readCounts_eq, readCounts_eq]
  have first := Agrees.skip options (f := readCount options) cs rfl fun l _ => readCount_agrees l
  refine first.bind (fun least rest suffix => ?_) (fun least _ => ?_) fun _ _ h => h.elim
  · refine ((readMost_agrees least rest).mono suffix).bind
      (fun most rest' suffix => ?_) (fun most _ => ?_)
      fun _ _ h => h.elim
    · exact (closeCounts_agrees least most rest').mono suffix
    · exact .none
  · exact .none

/-! ## Parts -/

/-- What may be left when a part has been read that goes beyond the text. -/
def AstrayPart (state : State) (rest : List Char) : Prop :=
  Overrun rest ∨ InBrace state.options rest

theorem readCounts_inBrace {rest : List Char} (spent : Spent (options.skip rest)) :
    readCounts options rest = none := by
  simp [readCounts, spent.readCount]

theorem readPiece_agrees (state : State) (c : Char) (cs : List Char) :
    Agrees AstrayPart cs (readPiece state c cs) (readPiece state c (cs ++ closing)) := by
  unfold readPiece
  dsimp only
  split
  · exact (readOpenGroup_agrees cs).imp fun _ _ h => .inl h
  · exact .map_option (fun state => state) List.suffix_rfl
  · exact .kept List.suffix_rfl
  · exact (readBracket_agrees cs).bind_map List.suffix_rfl
      (fun tree => some (state.add ⟨.atom (.chars tree.set), tree.height, false⟩))
      fun _ _ _ _ h => h.elim
  · rw [skipLazy_append]
    exact .map_option (fun state => state) (skipLazy_suffix cs)
  · rw [skipLazy_append]
    exact .map_option (fun state => state) (skipLazy_suffix cs)
  · rw [skipLazy_append]
    exact .map_option (fun state => state) (skipLazy_suffix cs)
  · have same (o : Option (Nat × Option Nat × List Char)) :
        (o.bind fun r => (state.repeatLast r.1 r.2.1).bind fun state => some (state, r.2.2)) =
          (o.map fun r => ((r.1, r.2.1), r.2.2)).bind fun r =>
            (state.repeatLast r.1.1 r.1.2).map (·, r.2) := by
      cases o <;> simp [Option.map_eq_bind]
    have counted : Agrees AstrayPart cs _ _ := (readCounts_agrees state.options cs).bind_map
      List.suffix_rfl (fun counts => state.repeatLast counts.1 counts.2) fun _ _ _ _ h => h.elim
    rw [← same, ← same] at counted
    exact counted
  · refine (readEscape_agrees cs).bind (fun _ _ suffix => .bind_option fun _ _ => .kept suffix)
      (fun _ hash => .bind_option fun _ _ => .swallowed hash)
      fun primitive rest stray state' rest' read => ?_
    obtain ⟨piece, -, same⟩ := Option.bind_eq_some_iff.1 read
    obtain ⟨rfl, rfl⟩ := Prod.mk.inj (Option.some.inj same)
    exact stray.imp_right And.right
  · exact .map_option _ List.suffix_rfl
  · exact .kept List.suffix_rfl
  · exact .kept List.suffix_rfl
  · exact .bind_option fun _ _ => .kept List.suffix_rfl

end FlagHost.Pattern

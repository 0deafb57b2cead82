import FlagHost.Proofs.Parts

/-!
# Readings

How the reading of a pattern comes to an end, part by part: at the end of the pattern, or at a
closing parenthesis while no group is open, which a pattern that stands alone fails at. `Reads`
knows no bound on the steps, and `readPieces` finds what it says.

Main statements: a pattern that is read to its end is read to the same state with a closing
parenthesis behind it, and that is met there unless it belongs to a comment; a closing parenthesis
behind a pattern is met only if the pattern is read to its end, or has one of its own; and inside of
a group a pattern is read as it is read alone, up to the parenthesis that closes the group.
-/

namespace FlagHost.Pattern

/-- Where a reading comes to an end. -/
inductive Outcome where
  /-- Nothing is left to read. -/
  | ends (state : State)
  /-- A closing parenthesis is met while no group is open; `rest` is behind it. -/
  | strays (state : State) (rest : List Char)

/-- Reading on from a state comes to an end. -/
inductive Reads : State → List Char → Outcome → Prop where
  | ends {state : State} {cs : List Char} (done : state.options.skip cs = []) :
      Reads state cs (.ends state)
  | strays {state : State} {cs rest : List Char} (found : state.options.skip cs = ')' :: rest)
      (alone : state.outer = []) : Reads state cs (.strays state rest)
  | part {state state' : State} {c : Char} {cs l rest : List Char} {o : Outcome}
      (found : state.options.skip cs = c :: l) (read : readPiece state c l = some (state', rest))
      (more : Reads state' rest o) : Reads state cs o

section Reads

variable {state fin : State} {cs l : List Char} {o o' : Outcome}

theorem readPiece_closing_of_alone (alone : state.outer = []) (l : List Char) :
    readPiece state ')' l = none := by
  simp [readPiece, State.leave, alone]

theorem readPiece_suffix {c : Char} {state' : State} {rest : List Char}
    (read : readPiece state c l = some (state', rest)) : rest <:+ l :=
  (readPiece_agrees _ c l).suffix read

theorem Reads.unique (h : Reads state cs o) (h' : Reads state cs o') : o = o' := by
  induction h with
  | ends done =>
    cases h' with
    | ends => rfl
    | strays found => exact nomatch done.symm.trans found
    | part found => exact nomatch done.symm.trans found
  | strays found alone =>
    cases h' with
    | ends done => exact nomatch done.symm.trans found
    | strays found' =>
      obtain ⟨-, rfl⟩ := List.cons_eq_cons.1 (found.symm.trans found')
      rfl
    | part found' read =>
      obtain ⟨rfl, rfl⟩ := List.cons_eq_cons.1 (found.symm.trans found')
      exact nomatch (readPiece_closing_of_alone alone _).symm.trans read
  | part found read _ ih =>
    cases h' with
    | ends done => exact nomatch done.symm.trans found
    | strays found' alone =>
      obtain ⟨rfl, rfl⟩ := List.cons_eq_cons.1 (found.symm.trans found')
      exact nomatch (readPiece_closing_of_alone alone _).symm.trans read
    | part found' read' more =>
      obtain ⟨rfl, rfl⟩ := List.cons_eq_cons.1 (found.symm.trans found')
      obtain ⟨rfl, rfl⟩ := Prod.mk.inj (Option.some.inj (read.symm.trans read'))
      exact ih more

theorem readPieces_done (done : state.options.skip cs = []) (n : Nat) :
    readPieces n state cs = some state := by
  cases n <;> simp [readPieces, done]

theorem readPieces_cons {c : Char} (found : state.options.skip cs = c :: l) (n : Nat) :
    readPieces (n + 1) state cs = (readPiece state c l).bind fun r => readPieces n r.1 r.2 := by
  rw [readPieces.eq_def]
  dsimp only
  rw [found]
  rfl

theorem reads_of_readPieces {n : Nat} (read : readPieces n state cs = some fin) :
    Reads state cs (.ends fin) := by
  induction n generalizing state cs with
  | zero =>
    cases left : state.options.skip cs with
    | nil =>
      obtain rfl := Option.some.inj ((readPieces_done left 0).symm.trans read)
      exact .ends left
    | cons c l => simp [readPieces, left] at read
  | succ n ih =>
    cases left : state.options.skip cs with
    | nil =>
      obtain rfl := Option.some.inj ((readPieces_done left (n + 1)).symm.trans read)
      exact .ends left
    | cons c l =>
      rw [readPieces_cons left, Option.bind_eq_some_iff] at read
      obtain ⟨⟨state', rest⟩, part, more⟩ := read
      exact .part left part (ih more)

theorem Reads.readPieces (h : Reads state cs o) (o_eq : o = .ends fin) {n : Nat}
    (enough : cs.length ≤ n) : readPieces n state cs = some fin := by
  induction h generalizing n with
  | ends done =>
    obtain rfl := Outcome.ends.inj o_eq
    exact readPieces_done done n
  | strays => exact nomatch o_eq
  | @part state state' c cs l rest o found read _ ih =>
    have shorter : rest.length < cs.length := by
      have le : (c :: l).length ≤ cs.length := found ▸ state.options.skip_length cs
      exact Nat.lt_of_le_of_lt (readPiece_suffix read).length_le le
    obtain ⟨n, rfl⟩ : ∃ m, n = m + 1 := Nat.exists_eq_add_of_le' (by omega)
    rw [readPieces_cons found, read]
    exact ih o_eq (by omega)

end Reads

/-! ## A closing parenthesis behind the pattern -/

section Closing

variable {state s fin : State} {cs rest : List Char} {o : Outcome}

theorem Reads.congr {cs' : List Char} (h : Reads state cs o)
    (same : state.options.skip cs' = state.options.skip cs) : Reads state cs' o := by
  cases h with
  | ends done => exact .ends (same.trans done)
  | strays found alone => exact .strays (same.trans found) alone
  | part found read more => exact .part (same.trans found) read more

/-- A closing parenthesis that is met stands somewhere. -/
theorem Reads.mem_of_strays (h : Reads state cs o) (o_eq : o = .strays s rest) : ')' ∈ cs := by
  induction h with
  | ends => exact nomatch o_eq
  | @strays state cs rest found =>
    have suffix : ')' :: rest <:+ cs := found ▸ skip_suffix state.options cs
    exact suffix.mem List.mem_cons_self
  | @part state state' c cs l rest o found read _ ih =>
    have suffix : c :: l <:+ cs := found ▸ skip_suffix state.options cs
    have inner : rest <:+ c :: l := (readPiece_suffix read).trans (List.suffix_cons c l)
    exact (inner.trans suffix).mem (ih o_eq)

/-- Where a part has been read that goes beyond the pattern, no closing parenthesis is met. -/
theorem AstrayPart.not_strays (h : AstrayPart state cs) : ¬ Reads state cs (.strays s rest) := by
  intro reads
  rcases h with overrun | ⟨blanks, rfl, spent⟩
  · have mem : ')' ∈ ['$'] := List.IsSuffix.subset overrun (reads.mem_of_strays rfl)
    simp at mem
  · have brace : state.options.skip ('\x7b' :: blanks) = '\x7b' :: blanks :=
      skip_of_not_blank state.options blanks (by decide) (by decide +kernel)
    cases reads with
    | strays found => exact nomatch brace.symm.trans found
    | part found read =>
      obtain ⟨rfl, rfl⟩ := List.cons_eq_cons.1 (brace.symm.trans found)
      simp [readPiece, readCounts_inBrace spent] at read

theorem reads_closing (alone : state.outer = []) :
    Reads state closing (.strays state ['$']) :=
  .strays (Spent.skip List.suffix_rfl state.options) alone

/-- A pattern that is read to its end is read so in front of a closing parenthesis, and that is met
there if it does not belong to a comment. -/
theorem Reads.append_closing (h : Reads state cs o) (o_eq : o = .ends fin) :
    '#' ∈ cs ∧ Reads state (cs ++ closing) (.ends fin) ∨
      ∀ o', Reads fin closing o' → Reads state (cs ++ closing) o' := by
  induction h with
  | @ends state cs done =>
    obtain rfl := Outcome.ends.inj o_eq
    rcases skip_append state.options cs with skip | ⟨hash, -, skip⟩
    · refine .inr fun o' more => more.congr ?_
      rw [skip, done, Spent.skip List.suffix_rfl, List.nil_append]
    · exact .inl ⟨hash, .ends skip⟩
  | strays => exact nomatch o_eq
  | @part state state' c cs l rest o found read more ih =>
    have found' : state.options.skip (cs ++ closing) = c :: (l ++ closing) := by
      rcases skip_append state.options cs with skip | ⟨-, nothing, -⟩
      · rw [skip, found, List.cons_append]
      · exact nomatch nothing.symm.trans found
    have agrees := readPiece_agrees state c l
    rw [read] at agrees
    generalize spliced : readPiece state c (l ++ closing) = read' at agrees
    have suffix : l <:+ cs :=
      (List.suffix_cons c l).trans (found ▸ skip_suffix state.options cs)
    cases agrees with
    | kept inner =>
      refine (ih o_eq).imp ?_ fun all o' h => .part found' spliced (all o' h)
      rintro ⟨hash, ends⟩
      exact ⟨(inner.trans suffix).subset hash, .part found' spliced ends⟩
    | swallowed hash => exact .inl ⟨suffix.subset hash, .part found' spliced (o_eq ▸ more)⟩

/-- A closing parenthesis behind a pattern is met only if the pattern is read to its end with no
group open, or has one of its own that is met. -/
theorem Reads.of_append_closing {l : List Char} (h : Reads state l o) (o_eq : o = .strays s rest)
    (l_eq : l = cs ++ closing) :
    (∃ fin, Reads state cs (.ends fin) ∧ fin.outer = []) ∨
      ∃ s' rest', Reads state cs (.strays s' rest') := by
  induction h generalizing cs with
  | ends => cases o_eq
  | @strays state l rest found alone =>
    subst l_eq
    rcases skip_append state.options cs with skip | ⟨-, -, skip⟩
    · cases left : state.options.skip cs with
      | nil => exact .inl ⟨state, .ends left, alone⟩
      | cons d m =>
        rw [skip, left, List.cons_append] at found
        obtain ⟨rfl, -⟩ := List.cons_eq_cons.1 found
        exact .inr ⟨state, m, .strays left alone⟩
    · cases skip.symm.trans found
  | @part state state' c l m rest o found read more ih =>
    subst l_eq
    rcases skip_append state.options cs with skip | ⟨-, -, skip⟩
    · cases left : state.options.skip cs with
      | nil =>
        -- The parenthesis closes a group of the pattern, and none is left for another.
        rw [skip, left, List.nil_append, closing] at found
        obtain ⟨-, rfl⟩ := List.cons_eq_cons.1 found
        have astray : AstrayPart state' rest := .inl (readPiece_suffix read)
        exact absurd (o_eq ▸ more) astray.not_strays
      | cons d k =>
        rw [skip, left, List.cons_append] at found
        obtain ⟨rfl, rfl⟩ := List.cons_eq_cons.1 found
        have agrees := readPiece_agrees state d k
        rw [read] at agrees
        generalize own : readPiece state d k = read' at agrees
        cases agrees with
        | kept =>
          refine (ih o_eq rfl).imp ?_ ?_
          · rintro ⟨fin, reads, alone⟩
            exact ⟨fin, .part left own reads, alone⟩
          · rintro ⟨s', rest', reads⟩
            exact ⟨s', rest', .part left own reads⟩
        | swallowed =>
          have astray : AstrayPart state' [] := .inl List.nil_suffix
          exact absurd (o_eq ▸ more) astray.not_strays
        | refused stray => exact absurd (o_eq ▸ more) (stray _ _ rfl).not_strays
    · cases skip.symm.trans found

end Closing

/-! ## Inside of a group -/

section Inside

variable {state fin s : State} {group : OpenGroup} {cs rest : List Char} {o : Outcome}

/-- The state with one more group open, around all others. -/
def State.inside (group : OpenGroup) (state : State) : State :=
  { state with outer := state.outer ++ [group] }

theorem inside_options (group : OpenGroup) (state : State) :
    (state.inside group).options = state.options := rfl

theorem repeatLast_inside (least : Nat) (most : Option Nat) :
    (state.inside group).repeatLast least most =
      (state.repeatLast least most).map (State.inside group) := by
  unfold State.repeatLast State.inside
  dsimp only
  split
  · rfl
  · split <;> rfl

theorem leave_inside (some_group : state.outer ≠ []) :
    (state.inside group).leave = state.leave.map (State.inside group) := by
  unfold State.leave State.inside
  cases outer : state.outer with
  | nil => exact absurd outer some_group
  | cons g groups => rfl

theorem readOpenGroup_inside (cs : List Char) :
    readOpenGroup (state.inside group) cs =
      (readOpenGroup state cs).map fun r => (r.1.inside group, r.2) := by
  rw [readOpenGroup_eq, readOpenGroup_eq, inside_options]
  unfold groupFrom
  split
  · split
    · next rest _ =>
      rw [named_eq, named_eq]
      cases readName rest with
      | none => rfl
      | some named =>
        by_cases known : named.1 ∈ state.names <;>
          simp [known, State.enterNamed?, State.inside, State.enter]
    · next rest _ =>
      unfold readOptions
      rw [inside_options]
      cases state.options.apply true [] _ with
      | none => rfl
      | some options =>
        simp only [Option.bind_some]
        split
        · rfl
        · split <;> rfl
        · rfl
  · rfl

/-- What is read of a part does not depend on the groups around, but for a closing parenthesis. -/
theorem readPiece_inside {c : Char} (some_group : c = ')' → state.outer ≠ []) (cs : List Char) :
    readPiece (state.inside group) c cs =
      (readPiece state c cs).map fun r => (r.1.inside group, r.2) := by
  have repeats (least : Nat) (most : Option Nat) (rest : List Char) :
      ((state.inside group).repeatLast least most).map (·, rest) =
        ((state.repeatLast least most).map (·, rest)).map fun r => (r.1.inside group, r.2) := by
    rw [repeatLast_inside]
    cases state.repeatLast least most <;> rfl
  unfold readPiece
  rw [inside_options]
  dsimp only
  split
  · exact readOpenGroup_inside cs
  · rw [leave_inside (some_group rfl)]
    cases state.leave <;> rfl
  · rfl
  · cases readBracket state.options cs <;> rfl
  · exact repeats _ _ _
  · exact repeats _ _ _
  · exact repeats _ _ _
  · cases readCounts state.options cs with
    | none => rfl
    | some counts =>
      simp only [Option.bind_eq_bind, Option.bind_some, repeatLast_inside]
      cases state.repeatLast counts.1 counts.2.1 <;> rfl
  · cases readEscape state.options cs with
    | none => rfl
    | some read =>
      simp only [Option.bind_eq_bind, Option.bind_some]
      cases read.1.piece? state.options <;> rfl
  · cases dotSet? state.options <;> rfl
  · rfl
  · rfl
  · simp only [Option.bind_eq_bind]
    cases Literal.piece? state.options _ <;> rfl

theorem some_group_of_read {c : Char} {l : List Char} {r : State × List Char}
    (read : readPiece state c l = some r) (closes : c = ')') : state.outer ≠ [] := by
  rintro alone
  subst closes
  exact nomatch (readPiece_closing_of_alone alone l).symm.trans read

/-- What is read to its end is read so with a group around. -/
theorem Reads.inside (h : Reads state cs o) (o_eq : o = .ends fin) (group : OpenGroup) :
    Reads (state.inside group) cs (.ends (fin.inside group)) := by
  induction h with
  | ends done =>
    obtain rfl := Outcome.ends.inj o_eq
    exact .ends done
  | strays => exact nomatch o_eq
  | part found read _ ih =>
    refine .part found ?_ (ih o_eq)
    rw [readPiece_inside (some_group_of_read read), read]
    rfl

/-- A closing parenthesis that is met closes the group around. -/
theorem Reads.inside_of_strays (h : Reads state cs o) (o_eq : o = .strays s rest)
    {closed : State} (leave : (s.inside group).leave = some closed) {o' : Outcome}
    (more : Reads closed rest o') : Reads (state.inside group) cs o' := by
  induction h with
  | ends => exact nomatch o_eq
  | strays found =>
    obtain ⟨rfl, rfl⟩ := Outcome.strays.inj o_eq
    exact .part found (by simp [readPiece, leave]) more
  | part found read _ ih =>
    refine .part found ?_ (ih o_eq)
    rw [readPiece_inside (some_group_of_read read), read]
    rfl

/-- The group around is closed only if a closing parenthesis is met. -/
theorem Reads.of_inside {state' : State} (h : Reads state' cs o) (o_eq : o = .ends fin)
    (state_eq : state' = state.inside group) (closed : fin.outer = []) :
    ∃ s rest, Reads state cs (.strays s rest) := by
  induction h generalizing state with
  | ends =>
    obtain rfl := Outcome.ends.inj o_eq
    simp [state_eq, State.inside] at closed
  | strays => exact nomatch o_eq
  | @part state' next c cs l rest o found read _ ih =>
    subst state_eq
    rw [inside_options] at found
    by_cases met : c = ')' ∧ state.outer = []
    · obtain ⟨rfl, alone⟩ := met
      exact ⟨state, l, .strays found alone⟩
    · rw [readPiece_inside (fun closes alone => met ⟨closes, alone⟩)] at read
      obtain ⟨⟨inner, rest'⟩, inner_read, same⟩ := Option.map_eq_some_iff.1 read
      obtain ⟨rfl, rfl⟩ := Prod.mk.inj same
      obtain ⟨s, behind, strays⟩ := ih o_eq rfl
      exact ⟨s, behind, .part found inner_read strays⟩

end Inside

end FlagHost.Pattern

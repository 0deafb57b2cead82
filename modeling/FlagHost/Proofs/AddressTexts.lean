import FlagHost.Proofs.Spans
import FlagHost.Url.Basic

/-!
# Texts of addresses

The text of an address is cleaned and then read from its front: a scheme, and behind it what stands
in front of a query or a fragment. Main statements: how an address is put together from these parts,
and what becomes of them when something is put behind the text. Blanks at the end of a text do not
count, but those that were there count once something stands behind them: they are the fringe of
the text.
-/

namespace FlagHost.Url

/-! ## Cleaning -/

/-- A blank or a control. -/
def isBlank (c : Char) : Bool := c.toNat ≤ 0x20

/-- Tabs and line ends count nowhere in the text of an address. -/
def counts (c : Char) : Bool := c ≠ '\t' && c ≠ '\n' && c ≠ '\r'

/-- There is a character that is no blank. -/
def Solid (cs : List Char) : Prop := ∃ c ∈ cs, isBlank c = false

/-- The blanks behind what is not blank, tabs and line ends apart. -/
def fringe (cs : List Char) : List Char :=
  ((cs.dropWhile isBlank).rtakeWhile isBlank).filter counts

/-- A test of all characters of a list, which can be evaluated. -/
theorem forall_mem_of_all {cs : List Char} {p : Char → Prop} [DecidablePred p]
    (tested : cs.all (fun c => decide (p c)) = true) : ∀ c ∈ cs, p c := by
  simpa using tested

theorem clean_eq (cs : List Char) :
    clean cs = ((cs.dropWhile isBlank).rdropWhile isBlank).filter counts := rfl

theorem clean_append_fringe (cs : List Char) :
    clean cs ++ fringe cs = (cs.dropWhile isBlank).filter counts := by
  rw [clean_eq, fringe, ← List.filter_append, List.rdropWhile_append_rtakeWhile]

theorem isBlank_of_mem_fringe {cs : List Char} {c : Char} (mem : c ∈ fringe cs) :
    isBlank c = true :=
  List.mem_rtakeWhile_imp (List.mem_filter.1 mem).1

theorem solid_of_clean_ne_nil {cs : List Char} (some_left : clean cs ≠ []) : Solid cs := by
  by_contra blank
  have all : ∀ c ∈ cs, isBlank c = true := by simpa [Solid] using blank
  refine some_left ?_
  rw [clean_eq, List.dropWhile_eq_nil_iff.2 all]
  rfl

/-- With something behind it the fringe of a text counts. -/
theorem clean_append {cs rest : List Char} (solid : Solid cs) (solid' : Solid rest) :
    clean (cs ++ rest) = clean cs ++ fringe cs ++ (rest.rdropWhile isBlank).filter counts := by
  rw [clean_append_fringe, clean_eq, dropWhile_append_of_exists solid,
    rdropWhile_append_of_exists _ solid', List.filter_append]

/-- A text without anything to clean. -/
theorem clean_of_tidy {cs : List Char} (counting : ∀ c ∈ cs, counts c = true)
    (first : ∀ c ∈ cs.head?, isBlank c = false) (last : ∀ c ∈ cs.getLast?, isBlank c = false) :
    clean cs = cs := by
  have front : cs.dropWhile isBlank = cs := by
    cases cs with
    | nil => rfl
    | cons c cs => exact List.dropWhile_cons_of_neg (by simp [first c rfl])
  have back : cs.rdropWhile isBlank = cs := by
    refine List.rdropWhile_eq_self_iff.2 fun some_left => ?_
    simp [last _ (List.getLast_mem_getLast? some_left)]
  rw [clean_eq, front, back, List.filter_eq_self.2 counting]

/-! ## Schemes -/

/-- The characters can be those of a scheme. -/
def isSchemeName : List Char → Bool
  | [] => false
  | c :: more =>
    c.isAlpha && more.all fun c => c.isAlphanum || c = '+' || c = '-' || c = '.'

theorem isSchemeName_colon {name : List Char} (valid : isSchemeName name = true) : ':' ∉ name := by
  cases name with
  | nil => exact List.not_mem_nil
  | cons c more =>
    intro mem
    simp only [isSchemeName, Bool.and_eq_true, List.all_eq_true] at valid
    rcases List.mem_cons.1 mem with rfl | mem
    · exact absurd valid.1 (by decide)
    · exact absurd (valid.2 ':' mem) (by decide)

theorem scheme?_eq (cs : List Char) :
    scheme? cs =
      match cs.dropWhile (· ≠ ':') with
      | [] => none
      | _ :: rest =>
        if isSchemeName (cs.takeWhile (· ≠ ':')) then
          some (String.ofList ((cs.takeWhile (· ≠ ':')).map Char.toLower), rest)
        else none := by
  unfold scheme?
  dsimp only
  rw [drop_takeWhile]
  cases cs.takeWhile (· ≠ ':') <;> cases cs.dropWhile (· ≠ ':') <;> rfl

/-- A scheme is what stands in front of the first colon, if it can be one. -/
theorem scheme?_eq_some_iff (cs : List Char) (scheme : String) (rest : List Char) :
    scheme? cs = some (scheme, rest) ↔
      ∃ name, cs = name ++ ':' :: rest ∧ isSchemeName name = true ∧
        scheme = String.ofList (name.map Char.toLower) := by
  rw [scheme?_eq]
  constructor
  · intro read
    cases behind : cs.dropWhile (· ≠ ':') with
    | nil =>
      rw [behind] at read
      exact nomatch read
    | cons c more =>
      have colon : decide (c ≠ ':') = false := by
        have := List.head?_dropWhile_not (fun c => decide (c ≠ ':')) cs
        rw [behind] at this
        simpa using this
      rw [behind] at read
      dsimp only at read
      split at read
      · next valid =>
        cases read
        refine ⟨cs.takeWhile (· ≠ ':'), ?_, valid, rfl⟩
        obtain rfl : c = ':' := by simpa using colon
        rw [← behind, List.takeWhile_append_dropWhile]
      · exact nomatch read
  · rintro ⟨name, rfl, valid, rfl⟩
    have inside : ∀ c ∈ name, decide (c ≠ ':') = true := fun c mem => by
      simpa using fun same : c = ':' => isSchemeName_colon valid (same ▸ mem)
    have stop : ∀ c ∈ (':' :: rest).head?, decide (c ≠ ':') = false := by
      intro c mem
      obtain rfl := Option.some.inj mem
      rfl
    rw [takeWhile_append_of_stop inside stop, dropWhile_append_of_stop inside stop]
    exact if_pos valid

/-- What stands behind a scheme does not change it. -/
theorem scheme?_append {cs rest : List Char} {scheme : String}
    (read : scheme? cs = some (scheme, rest)) (more : List Char) :
    scheme? (cs ++ more) = some (scheme, rest ++ more) := by
  obtain ⟨name, rfl, valid, rfl⟩ := (scheme?_eq_some_iff cs scheme rest).1 read
  refine (scheme?_eq_some_iff _ _ _).2 ⟨name, ?_, valid, rfl⟩
  rw [List.append_assoc, List.cons_append]

/-! ## Reading -/

/-- What stands in front of a query or a fragment. -/
def front (cs : List Char) : List Char := cs.takeWhile fun c => c ≠ '#' && c ≠ '?'

/-- What is written as the query behind a scheme. -/
def query? (cs : List Char) : Option (List Char) :=
  (splitOn? (· = '?') (cs.takeWhile (· ≠ '#'))).2

/-- The address with these parts, the query as it is written. -/
def assemble (scheme : String) (query : Option (List Char))
    (parts : Option (List Char) × Option Nat × Path) : Url where
  scheme := scheme
  host := parts.1
  port := parts.2.1
  path := parts.2.2
  query := query.map (percentEncode (escapedInQuery (isSpecial scheme)))

theorem parse?_of_scheme {text : String} {scheme : String} {rest : List Char}
    (read : scheme? (clean text.toList) = some (scheme, rest)) :
    parse? text = (hierarchy? scheme (front rest)).map (assemble scheme (query? rest)) := by
  have fronts :
      (splitOn? (fun c => c = '?') (splitOn? (fun c => c = '#') rest).1).1 = front rest := by
    simp only [splitOn?, front, List.takeWhile_takeWhile]
    congr 1
    funext c
    simp [Bool.and_comm]
  have queries :
      (splitOn? (fun c => c = '?') (splitOn? (fun c => c = '#') rest).1).2 = query? rest := by
    simp [splitOn?, query?]
  rw [Option.map_eq_bind, ← fronts, ← queries]
  unfold parse?
  rw [read]
  rfl

theorem isSome_parse?_iff {text : String} {scheme : String} {rest : List Char}
    (read : scheme? (clean text.toList) = some (scheme, rest)) :
    (parse? text).isSome ↔ (hierarchy? scheme (front rest)).isSome := by
  rw [parse?_of_scheme read, Option.isSome_map]

theorem exists_scheme_of_parse? {text : String} (read : (parse? text).isSome) :
    ∃ scheme rest, scheme? (clean text.toList) = some (scheme, rest) := by
  cases found : scheme? (clean text.toList) with
  | some parts => exact ⟨parts.1, parts.2, rfl⟩
  | none =>
    unfold parse? at read
    rw [found] at read
    exact nomatch read

end FlagHost.Url

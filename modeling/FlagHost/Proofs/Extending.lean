import FlagHost.Proofs.HostNames

/-!
# Putting a path behind an address

The text of an address is checked alone and used with a path behind it. Main statement: a text that
is read as an address is still read as one with a path of the flag service behind it, unless the
text is frayed: it ends in the middle of a host or a port, and has blanks behind. Alone the blanks
do not count, but with a path behind them they are in the host, and an address of the web cannot be
read then.
-/

namespace FlagHost.Url

/-! ## Hosts in front of paths -/

/-- In addresses of the web a backslash is a slash. -/
def slashed (special : Bool) (cs : List Char) : List Char :=
  cs.map fun c => if special && c = '\\' then '/' else c

/-- Whether the addresses of the scheme have a host however many slashes there are. -/
def alwaysHosted (scheme : String) : Bool := isSpecial scheme && scheme ≠ "file"

/-- What stands behind the slashes in front of a host, if there is to be a host. -/
def hosted? (scheme : String) (cs : List Char) : Option (List Char) :=
  if alwaysHosted scheme then
    some ((slashed (isSpecial scheme) cs).dropWhile (· = '/'))
  else
    match slashed (isSpecial scheme) cs with
    | '/' :: '/' :: rest => some rest
    | _ => none

/-- The part with the host and the port. -/
def hostPart (scheme : String) (cs : List Char) : List Char :=
  cs.takeWhile (!endsAuthority (isSpecial scheme) ·)

/-- Whether the host and the port can be read. -/
def acceptsHost (scheme : String) (name : List Char) : Bool :=
  if scheme = "file" then name.isEmpty || isDrive name || (fileHost? name).isSome
  else (authority? scheme name).isSome

theorem slashed_append (special : Bool) (cs ds : List Char) :
    slashed special (cs ++ ds) = slashed special cs ++ slashed special ds := List.map_append

theorem slashed_cons_of_ne {special : Bool} {c : Char} (other : c ≠ '\\') (cs : List Char) :
    slashed special (c :: cs) = c :: slashed special cs := by
  simp [slashed, other]

theorem slashed_of_blank {special : Bool} {blanks : List Char}
    (blank : ∀ c ∈ blanks, isBlank c = true) : slashed special blanks = blanks := by
  refine (List.map_congr_left fun c mem => ?_).trans (List.map_id _)
  have other := ne_of_isBlank (blank c mem) (show '\\' ∈ _ by decide)
  simp [other]

theorem slashed_false (cs : List Char) : slashed false cs = cs := by
  simp [slashed]

/-- Only a host that cannot be read keeps an address from being read. -/
theorem isSome_hierarchy?_iff (scheme : String) (cs : List Char) :
    (hierarchy? scheme cs).isSome ↔
      ∀ rest ∈ hosted? scheme cs, acceptsHost scheme (hostPart scheme rest) = true := by
  by_cases file : scheme = "file"
  · subst file
    have special : isSpecial "file" = true := by decide
    simp only [hierarchy?, hosted?, alwaysHosted, acceptsHost, special, if_true, ne_eq,
      not_true_eq_false, decide_false, Bool.and_false, Bool.false_eq_true, if_false]
    change (match slashed true cs with
      | '/' :: '/' :: rest => _
      | rest => _ : Option _).isSome ↔ _
    split
    · next rest same =>
      simp only [Option.mem_some_iff, forall_eq', hostPart, special]
      split
      · next plain => simp [plain]
      · next plain => simp only [plain, Bool.false_or, Option.isSome_map]
    · exact iff_of_true rfl fun rest found => by cases found
  · have by_authority (rest : List Char) :
        acceptsHost scheme rest = (authority? scheme rest).isSome := if_neg file
    by_cases special : isSpecial scheme = true
    · simp only [hierarchy?, hosted?, alwaysHosted, special, file, if_false, if_true, ne_eq,
        not_false_eq_true, decide_true, Bool.and_true, Option.mem_some_iff, forall_eq',
        by_authority, hostPart]
      change (Option.bind (authority? scheme (((slashed true cs).dropWhile (· = '/')).takeWhile
        (!endsAuthority true ·))) _).isSome ↔ _
      cases authority? scheme (((slashed true cs).dropWhile (· = '/')).takeWhile
        (!endsAuthority true ·)) <;> rfl
    · simp only [hierarchy?, hosted?, alwaysHosted, special, file, if_false, Bool.false_eq_true,
        by_authority, Bool.false_and, hostPart, slashed_false]
      split
      · next rest =>
        simp only [Option.mem_some_iff, forall_eq']
        cases authority? scheme (rest.takeWhile (!endsAuthority false ·)) <;> rfl
      · next other =>
        refine iff_of_true rfl fun rest found => ?_
        split at found
        · next same => exact absurd (List.cons.inj same).2 (other _)
        · cases found
      · next other _ =>
        refine iff_of_true rfl fun rest found => ?_
        split at found
        · exact absurd rfl (other _)
        · cases found

/-- In front of a host there are only slashes. -/
theorem slashed_of_hosted? {scheme : String} {cs rest : List Char}
    (found : hosted? scheme cs = some rest) :
    ∃ slashes, slashed (isSpecial scheme) cs = slashes ++ rest ∧ ∀ c ∈ slashes, c = '/' := by
  unfold hosted? at found
  split at found
  · obtain rfl := Option.some.inj found
    refine ⟨_, List.takeWhile_append_dropWhile.symm, fun c mem => ?_⟩
    simpa using List.mem_takeWhile_imp mem
  · split at found
    · next same =>
      obtain rfl := Option.some.inj found
      exact ⟨['/', '/'], same, by simp⟩
    · exact nomatch found

/-- A host that can be read is in front of what is put behind it. -/
theorem hosted?_append {scheme : String} {cs rest : List Char}
    (found : hosted? scheme cs = some rest)
    (accepted : acceptsHost scheme (hostPart scheme rest) = true) (more : List Char) :
    hosted? scheme (cs ++ more) = some (rest ++ slashed (isSpecial scheme) more) := by
  unfold hosted? at found ⊢
  rw [slashed_append]
  split at found
  · next web =>
    obtain ⟨special, file⟩ := Bool.and_eq_true_iff.1 web
    have file : scheme ≠ "file" := of_decide_eq_true file
    obtain rfl := Option.some.inj found
    have stop : ∃ c ∈ slashed (isSpecial scheme) cs, decide (c = '/') = false := by
      by_contra slashes
      have all : ∀ c ∈ slashed (isSpecial scheme) cs, decide (c = '/') = true := by
        simpa using slashes
      rw [List.dropWhile_eq_nil_iff.2 all, acceptsHost, if_neg file] at accepted
      simp [hostPart, authority?, withoutUser, splitPort, special] at accepted
    rw [if_pos web, dropWhile_append_of_exists stop]
  · next other =>
    rw [if_neg other]
    split at found
    · next same =>
      obtain rfl := Option.some.inj found
      rw [same]
      rfl
    · cases found

theorem alwaysHosted_of_none {scheme : String} {cs : List Char} (free : hosted? scheme cs = none) :
    alwaysHosted scheme = false := by
  by_contra always
  rw [Bool.not_eq_false] at always
  exact nomatch free.symm.trans (if_pos always)

theorem hosted?_eq_some_iff {scheme : String} (other : alwaysHosted scheme = false)
    (cs rest : List Char) :
    hosted? scheme cs = some rest ↔ slashed (isSpecial scheme) cs = '/' :: '/' :: rest := by
  unfold hosted?
  rw [if_neg (by rw [other]; decide)]
  split
  · next same =>
    rw [same]
    simp
  · next free => exact iff_of_false (fun found => nomatch found) (free rest)

/-- Putting a path behind an address without a host makes the first segment its host at most, and
only if there is a single slash in front. -/
theorem hosted?_append_of_none {scheme : String} {cs : List Char} (free : hosted? scheme cs = none)
    {blanks : List Char} (blank : ∀ c ∈ blanks, isBlank c = true) {d : Char} (other : d ≠ '/')
    (other' : d ≠ '\\') (more : List Char) :
    ∀ rest ∈ hosted? scheme (cs ++ (blanks ++ '/' :: d :: more)),
      rest = d :: slashed (isSpecial scheme) more := by
  intro rest found
  have not_always := alwaysHosted_of_none free
  have free (rest : List Char) : slashed (isSpecial scheme) cs ≠ '/' :: '/' :: rest := fun same =>
    nomatch free.symm.trans ((hosted?_eq_some_iff not_always cs rest).2 same)
  have same := (hosted?_eq_some_iff not_always _ rest).1 found
  rw [slashed_append, slashed_append, slashed_of_blank blank,
    slashed_cons_of_ne (by decide : '/' ≠ '\\'), slashed_cons_of_ne other'] at same
  have no_slash (b : Char) (mem : b ∈ blanks) : b ≠ '/' := ne_of_isBlank (blank b mem) (by decide)
  generalize slashed (isSpecial scheme) cs = front at free same
  -- The two slashes cannot both be in the text, nor can both be behind it.
  rcases front with _ | ⟨c, _ | ⟨c', front⟩⟩
  · rcases blanks with _ | ⟨b, blanks⟩
    · exact absurd (List.cons.inj (List.cons.inj same).2).1 other
    · exact absurd (List.cons.inj same).1 (no_slash b List.mem_cons_self)
  · rcases blanks with _ | ⟨b, blanks⟩
    · exact (List.cons.inj (List.cons.inj same).2).2.symm
    · exact absurd (List.cons.inj (List.cons.inj same).2).1 (no_slash b List.mem_cons_self)
  · obtain ⟨rfl, same'⟩ := List.cons.inj same
    obtain ⟨rfl, -⟩ := List.cons.inj same'
    exact absurd rfl (free front)

/-! ## Frayed texts -/

/-- The text ends in the middle of a host or a port. -/
def EndsInHost (text : String) : Prop :=
  ∃ scheme rest name, scheme? (clean text.toList) = some (scheme, rest) ∧
    hosted? scheme rest = some name ∧ ∀ c ∈ name, endsAuthority (isSpecial scheme) c = false

/-- Behind the host or the port there are blanks. -/
def Frayed (text : String) : Prop := fringe text.toList ≠ [] ∧ EndsInHost text

/-- What is in front of a query or a fragment is not changed by what is put behind it. -/
theorem front_append (rest more : List Char) :
    front (rest ++ more) = front rest ∨
      (∀ c ∈ rest, (c ≠ '#' && c ≠ '?') = true) ∧ front rest = rest ∧
        front (rest ++ more) = rest ++ front more := by
  by_cases alone : ∀ c ∈ rest, (c ≠ '#' && c ≠ '?') = true
  · refine .inr ⟨alone, List.takeWhile_eq_self_iff.2 alone, ?_⟩
    exact List.takeWhile_append_of_pos alone
  · have stop : ∃ c ∈ rest, (c ≠ '#' && c ≠ '?') = false := by simpa using alone
    exact .inl (takeWhile_append_of_exists stop more)

theorem front_blanks_append {blanks : List Char} (blank : ∀ c ∈ blanks, isBlank c = true)
    (more : List Char) : front (blanks ++ '/' :: more) = blanks ++ '/' :: front more := by
  have inside : ∀ c ∈ blanks, (c ≠ '#' && c ≠ '?') = true := fun c mem => by
    simp [ne_of_isBlank (blank c mem) (show '#' ∈ _ by decide),
      ne_of_isBlank (blank c mem) (show '?' ∈ _ by decide)]
  rw [front, List.takeWhile_append_of_pos inside, List.takeWhile_cons_of_pos (by decide)]
  rfl

/-- The text of an address with a path behind it: the fringe is between them. -/
theorem scheme?_clean_append {base path : String} {scheme : String} {rest start end_ : List Char}
    (read : scheme? (clean base.toList) = some (scheme, rest)) (split : path.toList = start ++ end_)
    (slash : start.getLast? = some '/') (counting : ∀ c ∈ start, counts c = true) :
    scheme? (clean (base ++ path).toList) = some (scheme,
      rest ++ (fringe base.toList ++ (start ++ (end_.rdropWhile isBlank).filter counts))) := by
  have solid : Solid base.toList := by
    refine solid_of_clean_ne_nil fun empty => ?_
    rw [empty] at read
    exact nomatch read
  have solid' : Solid path.toList := by
    refine ⟨'/', ?_, by decide⟩
    rw [split]
    exact List.mem_append_left _ (List.mem_of_getLast? slash)
  have stop : ∀ c ∈ start.getLast?, isBlank c = false := by
    rw [slash]
    intro c last
    obtain rfl := Option.some.inj last
    decide
  rw [String.toList_append, clean_append solid solid', split, rdropWhile_append_of_stop stop,
    List.filter_append, List.filter_eq_self.2 counting, List.append_assoc]
  exact scheme?_append read _

/-! ## Sound texts -/

/-- The first segment of the paths of the flag service could be a host. -/
theorem acceptsHost_client {scheme : String} (other : alwaysHosted scheme = false) :
    acceptsHost scheme "client".toList = true := by
  by_cases file : scheme = "file"
  · subst file
    decide +kernel
  · have special : isSpecial scheme = false := by simpa [alwaysHosted, file] using other
    have host : opaqueHost? ['c', 'l', 'i', 'e', 'n', 't'] = some "client".toList := by
      decide +kernel
    have parts : withoutUser "client".toList = ("client".toList, false) := by decide +kernel
    have split : splitPort false "client".toList = ("client".toList, []) := by decide +kernel
    rw [acceptsHost, if_neg file, authority?, parts]
    dsimp only
    rw [split, special]
    simp [host, port?]

theorem hostPart_append_of_exists {scheme : String} {name : List Char}
    (ends : ∃ c ∈ name, endsAuthority (isSpecial scheme) c = true) (more : List Char) :
    hostPart scheme (name ++ more) = hostPart scheme name :=
  takeWhile_append_of_exists (by simpa using ends) more

theorem hostPart_append_of_forall {scheme : String} {name : List Char}
    (inside : ∀ c ∈ name, endsAuthority (isSpecial scheme) c = false) (more : List Char) :
    hostPart scheme (name ++ '/' :: more) = name := by
  refine takeWhile_append_of_stop (fun c mem => by rw [inside c mem]; rfl) fun c first => ?_
  obtain rfl := Option.some.inj first
  rfl

/-- An address that is not frayed can have the paths of the flag service behind it. -/
theorem isSome_parse?_append {base : String} (accepted : (parse? base).isSome)
    (sound : ¬ Frayed base) (path : String) : (parse? (base ++ ("/client/" ++ path))).isSome := by
  obtain ⟨scheme, rest, read⟩ := exists_scheme_of_parse? accepted
  have split : ("/client/" ++ path).toList = "/client/".toList ++ path.toList :=
    String.toList_append
  rw [isSome_parse?_iff read] at accepted
  rw [isSome_parse?_iff (scheme?_clean_append read split rfl (forall_mem_of_all (by decide)))]
  generalize (path.toList.rdropWhile isBlank).filter counts = behind
  have blank : ∀ c ∈ fringe base.toList, isBlank c = true := fun c => isBlank_of_mem_fringe
  rcases front_append rest (fringe base.toList ++ ("/client/".toList ++ behind)) with
    same | ⟨-, whole, extended⟩
  · rwa [same]
  have shape : front (fringe base.toList ++ ("/client/".toList ++ behind)) =
      fringe base.toList ++ '/' :: 'c' :: front ("lient/".toList ++ behind) :=
    front_blanks_append blank ("client/".toList ++ behind)
  rw [whole, isSome_hierarchy?_iff] at accepted
  rw [extended, shape, isSome_hierarchy?_iff]
  intro found_rest found
  cases host : hosted? scheme rest with
  | none =>
    obtain rfl := hosted?_append_of_none host blank (by decide) (by decide) _ _ found
    have name : hostPart scheme
        ('c' :: slashed (isSpecial scheme) (front ("lient/".toList ++ behind))) =
          "client".toList := by
      have start : front ("lient/".toList ++ behind) = "lient/".toList ++ front behind :=
        List.takeWhile_append_of_pos (forall_mem_of_all (by decide))
      have straight : slashed (isSpecial scheme) "lient/".toList = "lient/".toList := by
        cases isSpecial scheme <;> decide
      have inside : ∀ c ∈ "client".toList, endsAuthority (isSpecial scheme) c = false :=
        forall_mem_of_all (by cases isSpecial scheme <;> decide)
      rw [start, slashed_append, straight]
      exact hostPart_append_of_forall inside _
    rw [name]
    exact acceptsHost_client (alwaysHosted_of_none host)
  | some name =>
    have readable := accepted name host
    rw [hosted?_append host readable] at found
    obtain rfl := Option.some.inj found
    by_cases inside : ∀ c ∈ name, endsAuthority (isSpecial scheme) c = false
    · have no_fringe : fringe base.toList = [] := by
        by_contra some_fringe
        exact sound ⟨some_fringe, scheme, rest, name, read, host, inside⟩
      have alone : hostPart scheme name = name :=
        List.takeWhile_eq_self_iff.2 fun c mem => by rw [inside c mem]; rfl
      rw [no_fringe, List.nil_append, slashed_cons_of_ne (by decide),
        hostPart_append_of_forall inside]
      rwa [alone] at readable
    · rw [hostPart_append_of_exists (by simpa using inside)]
      exact readable

/-! ## Frayed texts of the web -/

/-- No host ends in a blank. -/
theorem acceptsHost_snoc_blank {scheme : String} (special : isSpecial scheme = true) {c : Char}
    (blank : isBlank c = true) (cs : List Char) : acceptsHost scheme (cs ++ [c]) = false := by
  unfold acceptsHost
  split
  · have no_drive : isDrive (cs ++ [c]) = false := by
      have colon := ne_of_isBlank blank (show ':' ∈ _ by decide)
      have bar := ne_of_isBlank blank (show '|' ∈ _ by decide)
      rcases cs with _ | ⟨letter, _ | ⟨next, cs⟩⟩
      · rfl
      · simp [isDrive, colon, bar]
      · cases cs <;> rfl
    have no_host : fileHost? (cs ++ [c]) = none := by
      rw [fileHost?, webHost?_eq_none blank]
      rfl
    have some_name : (cs ++ [c]).isEmpty = false := List.isEmpty_eq_false_iff.2 (by simp)
    rw [no_drive, no_host, some_name]
    rfl
  · rw [authority?_eq_none special blank]
    rfl

/-- Behind a host that has no end there is no query and no fragment. -/
theorem alone_of_hosted? {scheme : String} {cs name : List Char}
    (host : hosted? scheme cs = some name)
    (inside : ∀ c ∈ name, endsAuthority (isSpecial scheme) c = false) :
    ∀ c ∈ cs, (c ≠ '#' && c ≠ '?') = true := by
  obtain ⟨slashes, same, all⟩ := slashed_of_hosted? host
  have marks : ∀ c ∈ ['#', '?'],
      c ≠ '\\' ∧ c ≠ '/' ∧ endsAuthority (isSpecial scheme) c = true :=
    forall_mem_of_all (by cases isSpecial scheme <;> decide)
  have absent {c : Char} (mark : c ∈ ['#', '?']) : c ∉ cs := by
    intro mem
    obtain ⟨straight, no_slash, ends⟩ := marks c mark
    have kept : c ∈ slashed (isSpecial scheme) cs :=
      List.mem_map.2 ⟨c, mem, by simp [straight]⟩
    rw [same] at kept
    rcases List.mem_append.1 kept with slash | named
    · exact no_slash (all c slash)
    · exact nomatch ends.symm.trans (inside c named)
  intro c mem
  simp only [Bool.and_eq_true, decide_eq_true_eq]
  exact ⟨fun same => absent (by simp) (same ▸ mem), fun same => absent (by simp) (same ▸ mem)⟩

/-- With a path behind them the blanks of a frayed address of the web are in its host. -/
theorem parse?_append_eq_none {base : String} {url : Url} (accepted : parse? base = some url)
    (special : isSpecial url.scheme = true) (frayed : Frayed base) {path : String}
    {more : List Char} (slash : path.toList = '/' :: more) : parse? (base ++ path) = none := by
  obtain ⟨some_fringe, scheme, rest, name, read, host, inside⟩ := frayed
  have same_scheme : url.scheme = scheme := by
    rw [parse?_of_scheme read] at accepted
    obtain ⟨parts, -, rfl⟩ := Option.map_eq_some_iff.1 accepted
    rfl
  rw [same_scheme] at special
  have blank : ∀ c ∈ fringe base.toList, isBlank c = true := fun c => isBlank_of_mem_fringe
  have split : path.toList = ['/'] ++ more := slash
  have extended := scheme?_clean_append read split rfl (forall_mem_of_all (by decide))
  have alone := alone_of_hosted? host inside
  have whole : front rest = rest := List.takeWhile_eq_self_iff.2 alone
  have readable : acceptsHost scheme (hostPart scheme name) = true := by
    have accepted := (isSome_parse?_iff read).1 (by rw [accepted]; rfl)
    rw [whole, isSome_hierarchy?_iff] at accepted
    exact accepted name host
  rw [parse?_of_scheme extended, Option.map_eq_none_iff, ← Option.not_isSome_iff_eq_none,
    isSome_hierarchy?_iff]
  generalize (more.rdropWhile isBlank).filter counts = behind
  have whole' : front (rest ++ (fringe base.toList ++ '/' :: behind)) =
      rest ++ (fringe base.toList ++ '/' :: front behind) := by
    rw [front, List.takeWhile_append_of_pos alone]
    exact congrArg (rest ++ ·) (front_blanks_append blank behind)
  rw [List.singleton_append, whole']
  intro accepted
  have inside' : ∀ c ∈ name ++ fringe base.toList, endsAuthority (isSpecial scheme) c = false := by
    intro c mem
    rcases List.mem_append.1 mem with mem | mem
    · exact inside c mem
    · have other {d : Char} (mark : d ∈ ".:[]@|/?#\\".toList) : c ≠ d :=
        ne_of_isBlank (blank c mem) mark
      simp [endsAuthority, other (show '/' ∈ _ by decide), other (show '?' ∈ _ by decide),
        other (show '#' ∈ _ by decide), other (show '\\' ∈ _ by decide)]
  have longer := accepted _ (hosted?_append host readable _)
  rw [slashed_append, slashed_of_blank blank, slashed_cons_of_ne (by decide), ← List.append_assoc,
    hostPart_append_of_forall inside'] at longer
  -- The host goes as far as the slash now, so that it ends in a blank.
  rcases List.eq_nil_or_concat (fringe base.toList) with empty | ⟨before, c, last⟩
  · exact some_fringe empty
  · have blank_c : isBlank c = true := blank c (by simp [last])
    rw [last, List.concat_eq_append, ← List.append_assoc,
      acceptsHost_snoc_blank special blank_c] at longer
    cases longer

end FlagHost.Url

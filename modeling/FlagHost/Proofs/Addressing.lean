import FlagHost.Proofs.AddressTexts
import FlagHost.Proofs.PercentCoding
import FlagHost.Proofs.Session

/-!
# What requests ask for

The connector puts the environment of its session into the path of an address, and its cluster into
the query, and the text that comes out is read as an address. `readTarget` reads the target of a
request as a server does. Main statement: what a server reads from the requests of a session are the
segments of the service, the environment and the cluster, so that different ones are never asked for
in the same words.
-/

namespace FlagHost

namespace Url

/-! ## Dots -/

/-- In lower case a character is itself or a letter. -/
theorem toLower_cases (c : Char) :
    c.toLower = c ∨ c.isAlpha = true ∧ c.toLower.isAlpha = true := by
  unfold Char.toLower
  split
  · next capital =>
    have low : 65 ≤ c.val.toNat := UInt32.le_iff_toNat_le.1 capital.1
    have high : c.val.toNat ≤ 90 := UInt32.le_iff_toNat_le.1 capital.2
    have small : (c.val + ('a'.val - 'A'.val)).toNat = c.val.toNat + 32 := by
      rw [UInt32.toNat_add, Nat.mod_eq_of_lt]
      · rfl
      · change c.val.toNat + 32 < 4294967296
        omega
    refine .inr ⟨?_, ?_⟩
    · exact (Bool.or_eq_true _ _).mpr (.inl (decide_eq_true capital))
    · refine (Bool.or_eq_true _ _).mpr (.inr ((Bool.and_eq_true _ _).mpr
        ⟨decide_eq_true (UInt32.le_iff_toNat_le.2 ?_),
          decide_eq_true (UInt32.le_iff_toNat_le.2 ?_)⟩))
      · rw [small]
        exact Nat.add_le_add_right low 32
      · rw [small]
        exact Nat.add_le_add_right high 32
  · exact .inl rfl

theorem toLower_eq_iff {c d : Char} (no_letter : d.isAlpha = false) : c.toLower = d ↔ c = d := by
  rcases toLower_cases c with same | ⟨letter, letter'⟩
  · rw [same]
  · constructor
    · rintro rfl
      exact nomatch no_letter.symm.trans letter'
    · rintro rfl
      exact nomatch no_letter.symm.trans letter

theorem map_toLower_eq_iff {cs ds : List Char} (no_letters : ∀ d ∈ ds, d.isAlpha = false) :
    cs.map Char.toLower = ds ↔ cs = ds := by
  induction cs generalizing ds with
  | nil => rfl
  | cons c cs ih =>
    cases ds with
    | nil => simp
    | cons d ds =>
      obtain ⟨no_letter, no_letters⟩ := List.forall_mem_cons.1 no_letters
      rw [List.map_cons, List.cons.injEq, List.cons.injEq, toLower_eq_iff no_letter,
        ih no_letters]

/-- The segment can stand in a path as it is: it has no mark of another part of an address, no
character that does not count, and it is not one of the segments that lead elsewhere. -/
structure Nameable (segment : List Char) : Prop where
  unmarked : ∀ c ∈ segment, c ∉ "/\\?#%\t\n\r".toList
  ne_dot : segment ≠ ['.']
  ne_dots : segment ≠ ['.', '.']

instance (segment : List Char) : Decidable (Nameable segment) :=
  decidable_of_iff (segment.all (· ∉ "/\\?#%\t\n\r".toList) = true ∧ segment ≠ ['.'] ∧
    segment ≠ ['.', '.']) ⟨fun ⟨a, b, c⟩ => ⟨forall_mem_of_all a, b, c⟩,
      fun ⟨a, b, c⟩ => ⟨by simpa using a, b, c⟩⟩

section Nameable

variable {segment : List Char}

theorem Nameable.not_mem (h : Nameable segment) {c : Char} (mark : c ∈ "/\\?#%\t\n\r".toList) :
    c ∉ segment :=
  fun mem => h.unmarked c mem mark

/-- Without a percent sign only the dots themselves lead elsewhere. -/
theorem Nameable.ne_of_percent (h : Nameable segment) {dots : List Char} (percent : '%' ∈ dots) :
    segment.map Char.toLower ≠ dots := by
  rintro rfl
  obtain ⟨c, mem, small⟩ := List.mem_map.1 percent
  rw [toLower_eq_iff (by decide)] at small
  exact h.not_mem (by decide) (small ▸ mem)

theorem Nameable.isDoubleDot (h : Nameable segment) : isDoubleDot segment = false := by
  have dots : segment.map Char.toLower ≠ ['.', '.'] := by
    rw [Ne, map_toLower_eq_iff (forall_mem_of_all (by decide))]
    exact h.ne_dots
  have first := h.ne_of_percent (show '%' ∈ "%2e.".toList by decide)
  have second := h.ne_of_percent (show '%' ∈ ".%2e".toList by decide)
  have both := h.ne_of_percent (show '%' ∈ "%2e%2e".toList by decide)
  simp only [Url.isDoubleDot, List.contains_eq_mem, decide_eq_false_iff_not, List.mem_cons,
    List.not_mem_nil, or_false, not_or, ← String.toList_inj, String.toList_ofList]
  exact ⟨dots, first, second, both⟩

theorem Nameable.isSingleDot (h : Nameable segment) : isSingleDot segment = false := by
  have dot : segment.map Char.toLower ≠ ['.'] := by
    rw [Ne, map_toLower_eq_iff (forall_mem_of_all (by decide))]
    exact h.ne_dot
  have coded := h.ne_of_percent (show '%' ∈ "%2e".toList by decide)
  simp only [Url.isSingleDot, List.contains_eq_mem, decide_eq_false_iff_not, List.mem_cons,
    List.not_mem_nil, or_false, not_or, ← String.toList_inj, String.toList_ofList]
  exact ⟨dot, coded⟩

end Nameable

theorem walk_of_nameable {segments : List (List Char)} (nameable : ∀ s ∈ segments, Nameable s)
    (before : List (List Char)) :
    walk before segments = before.reverse ++ segments.map (percentEncode escapedInPath) := by
  induction segments generalizing before with
  | nil => rw [walk, List.map_nil, List.append_nil]
  | cons segment segments ih =>
    obtain ⟨first, rest⟩ := List.forall_mem_cons.1 nameable
    simp only [walk, first.isDoubleDot, first.isSingleDot, Bool.false_eq_true, if_false]
    rw [ih rest, List.reverse_cons, List.append_assoc, List.map_cons]
    rfl

/-! ## Addresses of the web -/

/-- Segments as a path is written. -/
def writePath (segments : List (List Char)) : List Char := segments.flatMap ('/' :: ·)

theorem map_slash {cs : List Char} (straight : '\\' ∉ cs) :
    cs.map (fun c => if c = '\\' then '/' else c) = cs := by
  refine (List.map_congr_left fun c mem => if_neg ?_).trans (List.map_id _)
  rintro rfl
  exact straight mem

theorem mem_writePath {segments : List (List Char)} {c : Char} (mem : c ∈ writePath segments) :
    c = '/' ∨ ∃ s ∈ segments, c ∈ s := by
  obtain ⟨s, known, mem⟩ := List.mem_flatMap.1 mem
  exact (List.mem_cons.1 mem).imp_right fun mem => ⟨s, known, mem⟩

/-- No mark but the slash is in a path of segments that can stand there. -/
theorem not_mem_writePath {segments : List (List Char)} (nameable : ∀ s ∈ segments, Nameable s)
    {c : Char} (mark : c ∈ "\\?#%\t\n\r".toList) : c ∉ writePath segments := by
  intro mem
  rcases mem_writePath mem with rfl | ⟨s, known, mem⟩
  · exact absurd mark (by decide)
  · exact (nameable s known).not_mem (List.mem_cons_of_mem _ mark) mem

theorem pathOf_writePath {segments : List (List Char)} (nameable : ∀ s ∈ segments, Nameable s)
    (some_path : segments ≠ []) :
    pathOf true (writePath segments) = .segments (segments.map (percentEncode escapedInPath)) := by
  cases segments with
  | nil => exact absurd rfl some_path
  | cons segment segments =>
    have whole : ∀ s ∈ segment :: segments, '/' ∉ s := fun s mem =>
      (nameable s mem).not_mem (by decide)
    have found : pieces '/' (segment ++ writePath segments) = segment :: segments :=
      pieces_flatMap (whole _ List.mem_cons_self) fun s mem => whole s (List.mem_cons_of_mem _ mem)
    have straight : '\\' ∉ segment ++ writePath segments :=
      fun mem => not_mem_writePath nameable (by decide) (List.mem_cons_of_mem '/' mem)
    change Path.segments (segmentsOf true (segment ++ writePath segments)) = _
    simp only [segmentsOf, if_true, map_slash straight, found]
    rw [walk_of_nameable nameable]
    rfl

/-- Without a query and a fragment there is only the front. -/
theorem front_of_alone {cs : List Char} (alone : ∀ c ∈ cs, c ≠ '#' ∧ c ≠ '?') : front cs = cs :=
  List.takeWhile_eq_self_iff.2 fun c mem => by simp [alone c mem]

theorem query?_of_alone {cs : List Char} (alone : ∀ c ∈ cs, c ≠ '#' ∧ c ≠ '?') :
    query? cs = none := by
  have whole : cs.takeWhile (fun c => c ≠ '#') = cs :=
    List.takeWhile_eq_self_iff.2 fun c mem => by simp [(alone c mem).1]
  rw [query?, whole, splitOn?_of_outside fun c mem => by simp [(alone c mem).2]]

theorem hierarchy?_http {authority host path : List Char} {port : Option Nat}
    (reads : authority? "http" authority = some (host, port))
    (inside : ∀ c ∈ authority, endsAuthority true c = false)
    (stop : ∀ c ∈ path.head?, endsAuthority true c = true) (straight : '\\' ∉ path) :
    hierarchy? "http" ('/' :: '/' :: (authority ++ path)) =
      some (some host, port, pathOf true path) := by
  have no_mark {c : Char} (mark : endsAuthority true c = true) : c ∉ authority := fun mem =>
    nomatch mark.symm.trans (inside c mem)
  have no_slash : ∀ c ∈ (authority ++ path).head?, decide (c = '/') = false := by
    cases authority with
    | nil => exact nomatch reads
    | cons c authority =>
      intro d first
      obtain rfl := Option.some.inj first
      refine decide_eq_false fun same => ?_
      exact no_mark (show endsAuthority true '/' = true by decide) (same ▸ List.mem_cons_self)
  have unchanged : ('/' :: '/' :: (authority ++ path)).map (fun c => if c = '\\' then '/' else c) =
      '/' :: '/' :: (authority ++ path) :=
    map_slash (by simp [straight, no_mark (show endsAuthority true '\\' = true by decide)])
  have slashes : ∀ c ∈ "//".toList, decide (c = '/') = true := forall_mem_of_all (by decide)
  have behind : ('/' :: '/' :: (authority ++ path)).dropWhile (fun c => c = '/') =
      authority ++ path := dropWhile_append_of_stop slashes no_slash
  have name : (authority ++ path).takeWhile (fun c => !endsAuthority true c) = authority :=
    takeWhile_append_of_stop (fun c mem => by simp [inside c mem]) fun c mem => by simp [stop c mem]
  have special : isSpecial "http" = true := by decide
  simp only [hierarchy?, special, Bool.true_and, decide_eq_true_eq, if_true, unchanged, behind,
    name, reads, List.drop_left]
  rfl

/-- An address of the web with these parts is read as it is written. -/
theorem parse?_http {authority host : List Char} {port : Option Nat} {segments : List (List Char)}
    (reads : authority? "http" authority = some (host, port))
    (plain : ∀ c ∈ authority, endsAuthority true c = false ∧ counts c = true)
    (nameable : ∀ s ∈ segments, Nameable s) (some_path : segments ≠ [])
    (last : ∀ c ∈ (writePath segments).getLast?, isBlank c = false) :
    parse? (String.ofList ("http://".toList ++ (authority ++ writePath segments))) =
      some { scheme := "http", host := some host, port,
             path := .segments (segments.map (percentEncode escapedInPath)) } := by
  have some_text : writePath segments ≠ [] := by
    cases segments with
    | nil => exact absurd rfl some_path
    | cons s segments => exact List.cons_ne_nil _ _
  have no_mark {c : Char} (mark : c ∈ "\\?#%\t\n\r".toList) : c ∉ writePath segments :=
    not_mem_writePath nameable mark
  have counting : ∀ c ∈ "http://".toList, counts c = true := forall_mem_of_all (by decide)
  have tidy : clean ("http://".toList ++ (authority ++ writePath segments)) =
      "http://".toList ++ (authority ++ writePath segments) := by
    apply clean_of_tidy
    case counting =>
      intro c mem
      rcases List.mem_append.1 mem with mem | mem
      · exact counting c mem
      · rcases List.mem_append.1 mem with mem | mem
        · exact (plain c mem).2
        · have other {d : Char} (mark : d ∈ "\\?#%\t\n\r".toList) : c ≠ d := fun same =>
            no_mark mark (same ▸ mem)
          simp [counts, other (show '\t' ∈ _ by decide), other (show '\n' ∈ _ by decide),
            other (show '\r' ∈ _ by decide)]
    case first =>
      intro c first
      obtain rfl := Option.some.inj first
      decide
    case last =>
      rwa [← List.append_assoc, List.getLast?_append_of_ne_nil _ some_text]
  have read : scheme? (clean (String.ofList
      ("http://".toList ++ (authority ++ writePath segments))).toList) =
      some ("http", '/' :: '/' :: (authority ++ writePath segments)) := by
    rw [String.toList_ofList, tidy, scheme?_eq_some_iff]
    exact ⟨"http".toList, rfl, by decide, by decide⟩
  have alone : ∀ c ∈ '/' :: '/' :: (authority ++ writePath segments), c ≠ '#' ∧ c ≠ '?' := by
    have outside {d : Char} (ends : endsAuthority true d = true)
        (mark : d ∈ "\\?#%\t\n\r".toList) :
        d ∉ '/' :: '/' :: (authority ++ writePath segments) := by
      intro mem
      have other : d ≠ '/' := by
        rintro rfl
        exact absurd mark (by decide)
      simp only [List.mem_cons, other, false_or, List.mem_append] at mem
      rcases mem with mem | mem
      · exact nomatch ends.symm.trans (plain d mem).1
      · exact no_mark mark mem
    exact fun c mem => ⟨fun same => outside (by decide) (by decide) (same ▸ mem),
      fun same => outside (by decide) (by decide) (same ▸ mem)⟩
  have stop : ∀ c ∈ (writePath segments).head?, endsAuthority true c = true := by
    cases segments with
    | nil => exact absurd rfl some_path
    | cons s segments =>
      intro c first
      obtain rfl := Option.some.inj first
      decide
  rw [parse?_of_scheme read, front_of_alone alone, query?_of_alone alone,
    hierarchy?_http reads (fun c mem => (plain c mem).1) stop (no_mark (by decide)),
    pathOf_writePath nameable some_path]
  rfl

/-! ## Targets -/

/-- The text that a segment stands for. -/
def segmentText? (segment : List Char) : Option String :=
  Utf8.text? (percentDecode (Utf8.encode segment))

/-- Reads the segments of a path. -/
def readSegments (path : List Char) : Option (List String) :=
  match pieces '/' path with
  | [] :: segments => segments.mapM segmentText?
  | _ => none

/-- Reads the target of a request: the segments of the path, and the pairs of the query. -/
def readTarget (target : String) : Option (List String × List (String × String)) :=
  let (path, query) := splitOn? (· = '?') target.toList
  match readSegments path, readPairs (query.getD []) with
  | some segments, some pairs => some (segments, pairs)
  | _, _ => none

theorem percentDecode_of_nameable {segment : List Char} (nameable : Nameable segment) :
    percentDecode (Utf8.encode (percentEncode escapedInPath segment)) = Utf8.encode segment :=
  percentDecode_percentEncode (.inl (nameable.not_mem (by decide)))

theorem segmentText?_of_nameable {segment : List Char} (nameable : Nameable segment) :
    segmentText? (percentEncode escapedInPath segment) = some (String.ofList segment) := by
  rw [segmentText?, percentDecode_of_nameable nameable, Utf8.text?_encode]

/-- No slash and no question mark gets into a segment. -/
theorem not_mem_encoded {segment : List Char} (nameable : Nameable segment) :
    '/' ∉ percentEncode escapedInPath segment ∧ '?' ∉ percentEncode escapedInPath segment := by
  constructor <;> intro mem
  · exact nameable.not_mem (by decide) (mem_of_mem_percentEncode (by decide) (by decide) mem).1
  · exact nameable.not_mem (by decide) (mem_of_mem_percentEncode (by decide) (by decide) mem).1

/-- A segment is read as it was. -/
theorem readSegments_writePath {segments : List (List Char)}
    (nameable : ∀ s ∈ segments, Nameable s) :
    readSegments (writePath (segments.map (percentEncode escapedInPath))) =
      some (segments.map String.ofList) := by
  have whole : ∀ piece ∈ segments.map (percentEncode escapedInPath), '/' ∉ piece :=
    List.forall_mem_map.2 fun s known => (not_mem_encoded (nameable s known)).1
  have found : pieces '/' (writePath (segments.map (percentEncode escapedInPath))) =
      [] :: segments.map (percentEncode escapedInPath) :=
    pieces_flatMap List.not_mem_nil whole
  rw [readSegments, found]
  exact mapM_map_eq_some fun s known => segmentText?_of_nameable (nameable s known)

section WithPairs

variable (url : Url) (pairs : List (String × String))

theorem withPairs_scheme : (url.withPairs pairs).scheme = url.scheme := by
  unfold withPairs
  split <;> rfl

theorem withPairs_host : (url.withPairs pairs).host = url.host := by
  unfold withPairs
  split <;> rfl

theorem withPairs_port : (url.withPairs pairs).port = url.port := by
  unfold withPairs
  split <;> rfl

theorem withPairs_path : (url.withPairs pairs).path = url.path := by
  unfold withPairs
  split <;> rfl

end WithPairs

/-- A server reads the segments and the pairs that an address was made of. -/
theorem readTarget_withPairs {url : Url} {segments : List (List Char)}
    (path : url.path = .segments (segments.map (percentEncode escapedInPath)))
    (no_query : url.query = none) (nameable : ∀ s ∈ segments, Nameable s)
    (pairs : List (String × String)) :
    readTarget (url.withPairs pairs).target = some (segments.map String.ofList, pairs) := by
  have outside : ∀ c ∈ writePath (segments.map (percentEncode escapedInPath)),
      decide (c = '?') = false := by
    intro c mem
    refine decide_eq_false ?_
    rintro rfl
    rcases mem_writePath mem with same | ⟨piece, known, mem⟩
    · exact absurd same (by decide)
    · obtain ⟨s, mem_s, rfl⟩ := List.mem_map.1 known
      exact (not_mem_encoded (nameable s mem_s)).2 mem
  cases pairs with
  | nil =>
    have text : ((url.withPairs []).target).toList =
        writePath (segments.map (percentEncode escapedInPath)) := by
      simp [withPairs, target, path, no_query, Path.toList, writePath]
    simp only [readTarget, text, splitOn?_of_outside outside, readSegments_writePath nameable,
      Option.getD_none]
    rfl
  | cons pair pairs =>
    have text : ((url.withPairs (pair :: pairs)).target).toList =
        writePath (segments.map (percentEncode escapedInPath)) ++
          '?' :: appendPairs [] (pair :: pairs) := by
      simp [withPairs, target, path, no_query, Path.toList, writePath]
    simp only [readTarget, text, splitOn?_append outside (decide_eq_true (rfl : '?' = '?')),
      readSegments_writePath nameable, Option.getD_some, readPairs_appendPairs]

end Url

/-! ## Services -/

/-- What may stand in the segments of a service. -/
def isUnreserved (c : Char) : Bool :=
  c.isAlphanum || c = '-' || c = '.' || c = '_' || c = '~'

theorem isUnreserved_cases {c : Char} (plain : isUnreserved c = true) :
    c.toNat < 0x80 ∧ Url.escapedInPath c = false ∧ c ∉ "/\\?#%\t\n\r".toList := by
  have small : c.toNat < 0x80 := by
    delta isUnreserved Char.isAlphanum Char.isAlpha Char.isUpper Char.isLower Char.isDigit at plain
    simp only [Bool.or_eq_true, Bool.and_eq_true, decide_eq_true_eq, ge_iff_le,
      UInt32.le_iff_toNat_le] at plain
    rcases plain with (((((⟨-, upper⟩ | ⟨-, lower⟩) | ⟨-, digit⟩) | rfl) | rfl) | rfl) | rfl
    · exact Nat.lt_of_le_of_lt upper (by decide)
    · exact Nat.lt_of_le_of_lt lower (by decide)
    · exact Nat.lt_of_le_of_lt digit (by decide)
    all_goals decide
  have all : ∀ n < 0x80, isUnreserved (Char.ofNat n) = true →
      Url.escapedInPath (Char.ofNat n) = false ∧ Char.ofNat n ∉ "/\\?#%\t\n\r".toList := by
    decide +kernel
  have := all c.toNat small
  rw [Char.ofNat_toNat] at this
  exact ⟨small, this plain⟩

/-- Unreserved characters stand for themselves. -/
theorem percentEncode_of_unreserved {cs : List Char} (plain : ∀ c ∈ cs, isUnreserved c = true) :
    Url.percentEncode Url.escapedInPath cs = cs := by
  have alone : ∀ c ∈ cs, Url.percentChar Url.escapedInPath c = [c] := fun c mem => by
    obtain ⟨small, unescaped, -⟩ := isUnreserved_cases (plain c mem)
    exact if_pos ⟨small, by simp [unescaped]⟩
  rw [Url.percentEncode, List.flatMap_congr alone]
  exact List.flatMap_singleton' _

/-- The parts of the address of a service. -/
structure ServiceBase where
  /-- The host and the port as they are written. -/
  authority : List Char
  host : List Char
  port : Option Nat
  segments : List String
  reads : Url.authority? "http" authority = some (host, port)
  plain : ∀ c ∈ authority, Url.endsAuthority true c = false ∧ Url.counts c = true
  unreserved : ∀ s ∈ segments, ∀ c ∈ s.toList, isUnreserved c = true
  ne_dots : ∀ s ∈ segments, s ≠ "." ∧ s ≠ ".."

/-- What there is in an environment. -/
inductive Collection where
  | flags
  | segments

namespace Collection

def name : Collection → String
  | .flags => "feature-configs"
  | .segments => "target-segments"

/-- What the query has in front of the cluster. -/
def pairs : Collection → List (String × String)
  | .flags => []
  | .segments => [("rules", "v2")]

/-- The request asks for the collection with the token of a session. -/
def AsksWith (what : Collection) (c : Connector) (session : Session) : Request → Prop :=
  match what with
  | .flags => c.AsksFlags session
  | .segments => c.AsksSegments session

/-- The path that the connector puts behind the address of a service. -/
def path (what : Collection) (environment : String) : String :=
  "/client/env/" ++ environment ++ ("/" ++ what.name)

theorem toList_path (what : Collection) (environment : String) :
    (what.path environment).toList = Url.writePath
      ["client".toList, "env".toList, environment.toList, what.name.toList] := by
  have front : "/client/env/".toList =
      '/' :: ("client".toList ++ '/' :: ("env".toList ++ ['/'])) := by decide
  have slash : "/".toList = ['/'] := by decide
  rw [path, String.toList_append, String.toList_append, String.toList_append, front, slash]
  simp only [Url.writePath, List.flatMap_cons, List.flatMap_nil, List.append_nil,
    List.append_assoc, List.cons_append, List.nil_append]

theorem asksWith_iff (what : Collection) (c : Connector) (session : Session) (request : Request) :
    what.AsksWith c session request ↔
      c.Asks session (what.path session.claims.environment) what.pairs request := by
  cases what <;> rfl

end Collection

namespace ServiceBase

variable (b : ServiceBase)

/-- The segments of the service. -/
def parts : List (List Char) := b.segments.map String.toList

/-- The address as it is written. -/
def text : String :=
  String.ofList ("http://".toList ++ (b.authority ++ Url.writePath b.parts))

theorem nameable_of_mem_parts {segment : List Char} (mem : segment ∈ b.parts) :
    Url.Nameable segment := by
  obtain ⟨s, known, rfl⟩ := List.mem_map.1 mem
  constructor
  case unmarked => exact fun c mem => (isUnreserved_cases (b.unreserved s known c mem)).2.2
  case ne_dot => exact fun same => (b.ne_dots s known).1 (String.toList_inj.1 same)
  case ne_dots => exact fun same => (b.ne_dots s known).2 (String.toList_inj.1 same)

theorem map_percentEncode_parts : b.parts.map (Url.percentEncode Url.escapedInPath) = b.parts := by
  refine (List.map_congr_left fun segment mem => ?_).trans (List.map_id _)
  obtain ⟨s, known, rfl⟩ := List.mem_map.1 mem
  exact percentEncode_of_unreserved (b.unreserved s known)

/-- The address is that of a collection of the environment: behind the path of the service it has
four segments, of which the third one stands for the environment, and a server reads the
environment, and the cluster if there is one. -/
structure Names (what : Collection) (claims : Claims) (url : Url) : Prop where
  scheme : url.scheme = "http"
  host : url.host = some b.host
  port : url.port = b.port
  path : ∃ segment, url.path =
      .segments (b.parts ++ ["client".toList, "env".toList, segment, what.name.toList]) ∧
    '/' ∉ segment ∧ Url.percentDecode (Utf8.encode segment) = Utf8.ofText claims.environment
  read : Url.readTarget url.target =
    some (b.segments ++ ["client", "env", claims.environment, what.name],
      what.pairs ++ (claims.cluster.map ("cluster", ·)).toList)

variable {b}

/-- The target tells what is asked for. -/
theorem Names.eq_of_target {what what' : Collection} {claims claims' : Claims} {url url' : Url}
    (h : b.Names what claims url) (h' : b.Names what' claims' url')
    (same : url.target = url'.target) :
    what = what' ∧ claims.environment = claims'.environment ∧ claims.cluster = claims'.cluster := by
  have read := h.read
  rw [same, h'.read, Option.some_inj, Prod.mk.injEq] at read
  obtain ⟨segments, pairs⟩ := read
  obtain ⟨environment, name⟩ : claims'.environment = claims.environment ∧
      what'.name = what.name := by
    simpa using List.append_cancel_left segments
  obtain rfl : what' = what := by
    cases what <;> cases what' <;> first | rfl | exact absurd name (by decide)
  have clusters := List.append_cancel_left pairs
  refine ⟨rfl, environment.symm, ?_⟩
  cases known : claims.cluster <;> cases known' : claims'.cluster <;>
    simp_all

/-- What is in the path of a request for a collection. -/
def pathOf (b : ServiceBase) (environment : String) (what : Collection) : List (List Char) :=
  b.parts ++ ["client".toList, "env".toList, environment.toList, what.name.toList]

theorem nameable_of_mem_pathOf (b : ServiceBase) {environment : String}
    (nameable : Url.Nameable environment.toList) (what : Collection) :
    ∀ segment ∈ b.pathOf environment what, Url.Nameable segment := by
  intro segment mem
  rcases List.mem_append.1 mem with mem | mem
  · exact b.nameable_of_mem_parts mem
  · simp only [List.mem_cons, List.not_mem_nil, or_false] at mem
    rcases mem with rfl | rfl | rfl | rfl
    · decide
    · decide
    · exact nameable
    · cases what <;> decide

theorem text_append (environment : String) (what : Collection) :
    b.text ++ what.path environment =
      String.ofList ("http://".toList ++
        (b.authority ++ Url.writePath (b.pathOf environment what))) := by
  have parts : Url.writePath (b.pathOf environment what) =
      Url.writePath b.parts ++ (what.path environment).toList := by
    rw [Collection.toList_path]
    exact List.flatMap_append
  rw [parts, ← List.append_assoc, ← List.append_assoc, String.ofList_append, String.ofList_toList,
    List.append_assoc]
  rfl

theorem getLast?_writePath (environment : String) (what : Collection) :
    (Url.writePath (b.pathOf environment what)).getLast? = ('/' :: what.name.toList).getLast? := by
  have split : Url.writePath (b.pathOf environment what) =
      Url.writePath (b.parts ++ ["client".toList, "env".toList, environment.toList]) ++
        '/' :: what.name.toList := by
    simp only [Url.writePath, pathOf, List.flatMap_append, List.flatMap_cons, List.flatMap_nil,
      List.append_nil, List.append_assoc]
  rw [split, List.getLast?_append_of_ne_nil _ (List.cons_ne_nil _ _)]

/-- The address of a collection, without a query. -/
def address (b : ServiceBase) (environment : String) (what : Collection) : Url where
  scheme := "http"
  host := some b.host
  port := b.port
  path := .segments ((b.pathOf environment what).map (Url.percentEncode Url.escapedInPath))

theorem parse?_path {environment : String} (nameable : Url.Nameable environment.toList)
    (what : Collection) :
    Url.parse? (b.text ++ what.path environment) = some (b.address environment what) := by
  have last : ∀ d ∈ (Url.writePath (b.pathOf environment what)).getLast?,
      Url.isBlank d = false := by
    rw [getLast?_writePath]
    intro d mem
    have last : 's' = d := by cases what <;> exact Option.some.inj mem
    rw [← last]
    rfl
  rw [text_append]
  exact Url.parse?_http b.reads b.plain (b.nameable_of_mem_pathOf nameable what)
    (by simp [pathOf]) last

/-- The address that is built for a collection names it. -/
theorem names_address {claims : Claims} (nameable : Url.Nameable claims.environment.toList)
    (what : Collection) :
    b.Names what claims ((b.address claims.environment what).withPairs
      (what.pairs ++ (claims.cluster.map ("cluster", ·)).toList)) := by
  have client : Url.percentEncode Url.escapedInPath "client".toList = "client".toList :=
    percentEncode_of_unreserved (Url.forall_mem_of_all (by decide))
  have env : Url.percentEncode Url.escapedInPath "env".toList = "env".toList :=
    percentEncode_of_unreserved (Url.forall_mem_of_all (by decide))
  have name : Url.percentEncode Url.escapedInPath what.name.toList = what.name.toList :=
    percentEncode_of_unreserved (Url.forall_mem_of_all (by cases what <;> decide))
  constructor
  case scheme => rw [Url.withPairs_scheme, address]
  case host => rw [Url.withPairs_host, address]
  case port => rw [Url.withPairs_port, address]
  case path =>
    refine ⟨_, ?_, (Url.not_mem_encoded nameable).1, Url.percentDecode_of_nameable nameable⟩
    rw [Url.withPairs_path, address, pathOf, List.map_append, map_percentEncode_parts]
    simp only [List.map_cons, List.map_nil, client, env, name]
  case read =>
    rw [Url.readTarget_withPairs rfl rfl (b.nameable_of_mem_pathOf nameable what)]
    simp [pathOf, parts, Function.comp_def]

theorem asksWith_iff_eq {c : Connector} (at_base : c.baseUrl = b.text) {session : Session}
    (nameable : Url.Nameable session.claims.environment.toList) (what : Collection)
    (request : Request) :
    what.AsksWith c session request ↔ request = Connector.getRequest session
      ((b.address session.claims.environment what).withPairs
        (what.pairs ++ (session.claims.cluster.map ("cluster", ·)).toList)) := by
  rw [Collection.asksWith_iff, Connector.Asks, Connector.url?, at_base, parse?_path nameable]
  constructor
  · rintro ⟨url, same, rfl⟩
    rw [← Option.some.inj same]
  · rintro rfl
    exact ⟨_, rfl, rfl⟩

end ServiceBase

namespace Connector

variable {apiKey apiKey' base : String} {history history' : List Exchange} {c c' : Connector}

theorem Calls.baseUrl (h : Calls apiKey base history c) : c.baseUrl = base := by
  induction h with
  | new => rfl
  | call _ fetch ih => exact (fetches_of_ends fetch).baseUrl.trans ih

theorem Follows.asksWith {session : Session} {before : List Exchange} {x : Exchange}
    (h : c.Follows session before x) : ∃ what : Collection, what.AsksWith c session x.request := by
  rcases h with asks | ⟨asks, -⟩
  · exact ⟨.flags, asks⟩
  · exact ⟨.segments, asks⟩

/-- The request was sent with the token of the session, which was held then. -/
def SentWith (history : List Exchange) (session : Session) (request : Request) : Prop :=
  ∃ before x after, history = before ++ x :: after ∧ x.request = request ∧
    request.method = "GET" ∧ Held before session

/-- What is sent with a token asks for a collection of the environment of the session. -/
theorem Calls.asksWith (calls : Calls apiKey base history c) {before after : List Exchange}
    {x : Exchange} (split : history = before ++ x :: after) (get : x.request.method = "GET") :
    ∃ session, Held before session ∧ ∃ (sender : Connector) (what : Collection),
      sender.baseUrl = base ∧ what.AsksWith sender session x.request := by
  induction calls generalizing after with
  | new => exact absurd split (nil_ne_split before x after)
  | @call history exchanges sender _ _ calls fetch ih =>
    have sent (earlier : List Exchange) (apart : exchanges = earlier ++ x :: after) :
        ∃ session, Held (history ++ earlier) session ∧ ∃ (sender : Connector) (what : Collection),
          sender.baseUrl = base ∧ what.AsksWith sender session x.request := by
      rcases (fetches_of_ends fetch).sends calls.kept apart with
        ⟨-, token⟩ | ⟨session, held, follows⟩
      · exact absurd token.method (Request.not_post_of_get get)
      · obtain ⟨what, asks⟩ := follows.asksWith
        exact ⟨session, held, sender, what, calls.baseUrl, asks⟩
    rcases List.append_eq_append_iff.1 split with ⟨earlier, rfl, apart⟩ | ⟨later, before_eq, apart⟩
    · exact sent earlier apart
    · cases later with
      | nil =>
        have here := sent [] apart.symm
        rw [List.append_nil] at here before_eq
        rwa [before_eq] at here
      | cons y later =>
        obtain ⟨rfl, -⟩ := List.cons_eq_cons.1 apart
        exact ih before_eq

/-- How the requests of a connector name what they ask for, compared with those of another history
with the same service. -/
structure Addressed (b : ServiceBase) (c : Connector) (history history' : List Exchange) :
    Prop where
  /-- For both collections there is exactly one request, and its address names it. -/
  asksWith_iff : ∀ (what : Collection) (session : Session),
    Url.Nameable session.claims.environment.toList → ∃ url, b.Names what session.claims url ∧
      ∀ request, what.AsksWith c session request ↔ request = getRequest session url
  exists_sentWith : ∀ x ∈ history, x.request.method = "GET" →
    ∃ session, SentWith history session x.request
  names : ∀ session request, SentWith history session request →
    Url.Nameable session.claims.environment.toList →
    ∃ what, b.Names what session.claims request.url
  /-- Different environments and clusters are never asked for at the same address. -/
  separate : ∀ session session' request request', SentWith history session request →
    SentWith history' session' request' → Url.Nameable session.claims.environment.toList →
    Url.Nameable session'.claims.environment.toList → request.url.target = request'.url.target →
    session.claims.environment = session'.claims.environment ∧
      session.claims.cluster = session'.claims.cluster

theorem Calls.names {b : ServiceBase} (calls : Calls apiKey b.text history c) {session : Session}
    {request : Request} (sent : SentWith history session request)
    (nameable : Url.Nameable session.claims.environment.toList) :
    ∃ what, b.Names what session.claims request.url := by
  obtain ⟨before, x, after, split, rfl, get, held⟩ := sent
  obtain ⟨_, held', sender, what, at_base, asks⟩ := calls.asksWith split get
  obtain rfl := held.unique held'
  rw [ServiceBase.asksWith_iff_eq at_base nameable] at asks
  rw [asks]
  exact ⟨what, ServiceBase.names_address nameable what⟩

/-- Whatever the service replies, the requests with a token are addressed to the environment and the
cluster that its claims name. -/
theorem addressed_of_calls (b : ServiceBase) (calls : Calls apiKey b.text history c)
    (calls' : Calls apiKey' b.text history' c') : Addressed b c history history' := by
  constructor
  case asksWith_iff =>
    intro what session nameable
    exact ⟨_, ServiceBase.names_address nameable what,
      ServiceBase.asksWith_iff_eq calls.baseUrl nameable what⟩
  case exists_sentWith =>
    intro x mem get
    obtain ⟨before, after, split⟩ := List.append_of_mem mem
    obtain ⟨session, held, -⟩ := calls.asksWith split get
    exact ⟨session, before, x, after, split, rfl, get, held⟩
  case names => exact fun session request sent nameable => calls.names sent nameable
  case separate =>
    intro session session' request request' sent sent' nameable nameable' same
    obtain ⟨what, names⟩ := calls.names sent nameable
    obtain ⟨what', names'⟩ := calls'.names sent' nameable'
    exact (names.eq_of_target names' same).2

/-- A service on this machine, below a path. -/
def localBase : ServiceBase where
  authority := "localhost:3000".toList
  host := "localhost".toList
  port := some 3000
  segments := ["api", "1.0"]
  reads := by decide +kernel
  plain := Url.forall_mem_of_all (by decide)
  unreserved := by
    rw [List.forall_mem_cons, List.forall_mem_singleton]
    exact ⟨Url.forall_mem_of_all (by decide), Url.forall_mem_of_all (by decide)⟩
  ne_dots := by decide

/-- A connector to it that has not been called. -/
def localNewcomer : Connector := { apiKey := "key", baseUrl := localBase.text }

/-- A service that grants a token for an environment with a blank and an umlaut and for a cluster
with an ampersand, and has neither flags nor segments. -/
def emptyHanded (request : Request) : Reply :=
  .response {
    status := 200
    body := Utf8.ofText <|
      if request.method = "POST" then
        "\x7b\"authToken\":\"a.eyJlbnZpcm9ubWVudCI6IlrDvHJpY2ggMSIsImNsdXN0ZXJJZGVudGlmaWVyIjo" ++
          "iYSZiIGMifQ\"\x7d"
      else "[]" }

/-- Both collections are asked for, at different addresses. -/
theorem addressed_after_fetch :
    let history := localNewcomer.fetch.exchanges emptyHanded
    history.map (·.request.url.target) = ["/api/1.0/client/auth",
      "/api/1.0/client/env/Z%C3%BCrich%201/feature-configs?cluster=a%26b+c",
      "/api/1.0/client/env/Z%C3%BCrich%201/target-segments?rules=v2&cluster=a%26b+c"] ∧
    Addressed localBase (localNewcomer.fetch.against emptyHanded).2 ([] ++ history)
      ([] ++ history) := by
  refine ⟨by decide +kernel, ?_⟩
  have calls : Calls "key" localBase.text [] localNewcomer := .new
  exact addressed_of_calls localBase (calls.against emptyHanded) (calls.against emptyHanded)

end Connector

end FlagHost

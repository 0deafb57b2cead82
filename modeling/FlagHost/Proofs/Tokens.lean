import FlagHost.Proofs.Printing
import FlagHost.Proofs.Symbols
import FlagHost.Token

/-!
# Claims on their way in a token

`Claims.WrittenAs c document` says that the bytes `document` are an object with the fields of the
claims `c`: in any order, with blanks and escapes wherever they may stand, and with other members
among them. Main statement: a token whose second part carries such a document, in symbols of either
alphabet of base64, has these claims, whatever its other parts are; and nothing but what the symbols
of the second part stand for decides what comes of a token.
-/

namespace FlagHost

open Json (Blank Members Spells Written Format Fields)

namespace Json

/-- The values of the members of a name, as they are written. -/
def bytesNamed (name : String) (members : List (String × Bytes)) : List Bytes :=
  (members.filter (·.1 = name)).map (·.2)

theorem mem_bytesNamed {name : String} {members : List (String × Bytes)} {v : Bytes}
    (mem : (name, v) ∈ members) : v ∈ bytesNamed name members := by
  simpa [bytesNamed] using mem

theorem bytesNamed_cons (name k : String) (v : Bytes) (members : List (String × Bytes)) :
    bytesNamed name ((k, v) :: members) =
      if k = name then v :: bytesNamed name members else bytesNamed name members := by
  by_cases h : k = name <;> simp [bytesNamed, h]

/-- A member of a name that comes once has the value that is known. -/
theorem eq_of_bytesNamed {name : String} {members : List (String × Bytes)} {v w : Bytes}
    (only : bytesNamed name members = [w]) (mem : (name, v) ∈ members) : v = w := by
  have value := mem_bytesNamed mem
  rw [only] at value
  exact List.mem_singleton.1 value

theorem mem_of_bytesNamed {name : String} {members : List (String × Bytes)} {v : Bytes}
    (only : bytesNamed name members = [v]) : (name, v) ∈ members := by
  have mem : v ∈ bytesNamed name members := by simp [only]
  simpa [bytesNamed] using mem

theorem named_map (name : String) (document : Bytes → Json) (members : List (String × Bytes)) :
    named name (members.map fun member => (member.1, document member.2)) =
      (bytesNamed name members).map document := by
  simp [named, bytesNamed, List.filter_map, Function.comp_def]

/-- The bytes write a text. -/
inductive WritesText : String → Bytes → Prop where
  | quoted {t : String} {s : Bytes} (spells : Spells t.toList s) : WritesText t (34 :: s ++ [34])

/-- The values that are written for a field that may lack one: none, null, or a text. -/
inductive WritesOptional : Option String → List Bytes → Prop where
  | absent : WritesOptional none []
  | null : WritesOptional none [Utf8.ofText "null"]
  | text {t : String} {v : Bytes} (writes : WritesText t v) : WritesOptional (some t) [v]

theorem WritesText.textOrNull {t : String} {v : Bytes} (h : WritesText t v) :
    textOrNull v = .text t := by
  cases h with
  | quoted spells => exact textOrNull_of_spells spells

theorem WritesText.decode {t : String} {v : Bytes} (h : WritesText t v) :
    Format.text.decode (Json.textOrNull v) = some t := by
  rw [h.textOrNull]
  rfl

theorem writesText_write (t : String) : WritesText t (Utf8.encode (write (.text t))) := by
  obtain ⟨s, bytes, spells⟩ := exists_spells_writeText t
  rw [write, bytes]
  exact .quoted spells

theorem WritesText.readsAs {t : String} {v : Bytes} (h : WritesText t v) (bounds : Bounds) :
    Format.text.ReadsAs bounds v (Json.textOrNull v) := by
  rw [h.textOrNull]
  cases h with
  | quoted spells => exact Format.readsAs_text spells bounds

theorem WritesOptional.readsAs {t : Option String} {vs : List Bytes} (h : WritesOptional t vs)
    (bounds : Bounds) : ∀ v ∈ vs, Format.text.optional.ReadsAs bounds v (textOrNull v) := by
  cases h with
  | absent => exact List.forall_mem_nil _
  | null =>
    rw [List.forall_mem_singleton, ofText_null]
    exact Format.readsAs_optional_null _ bounds
  | text writes =>
    rw [List.forall_mem_singleton, writes.textOrNull]
    cases writes with
    | quoted spells =>
      exact (Format.readsAs_text spells bounds).optional rfl (by decide) fun null => nomatch null

theorem WritesOptional.valueOf {t : Option String} {vs : List Bytes} (h : WritesOptional t vs)
    (name : String) : (nullable name .text).valueOf (vs.map textOrNull) = some t := by
  cases h with
  | absent => rfl
  | null =>
    rw [ofText_null]
    rfl
  | text writes =>
    rw [List.map_singleton, writes.textOrNull]
    rfl

end Json

/-! ## Claims as documents -/

namespace Claims

/-- The names of the fields of claims. -/
def fieldNames : List String :=
  ["environment", "clusterIdentifier", "accountID", "environmentIdentifier"]

/-- The members have the fields of the claims, and others that are only written correctly. -/
structure InMembers (c : Claims) (members : List (String × Bytes)) : Prop where
  environment : ∃ v, Json.bytesNamed "environment" members = [v] ∧ Json.WritesText c.environment v
  cluster : Json.WritesOptional c.cluster (Json.bytesNamed "clusterIdentifier" members)
  account : Json.WritesOptional c.account (Json.bytesNamed "accountID" members)
  environmentLabel :
    Json.WritesOptional c.environmentLabel (Json.bytesNamed "environmentIdentifier" members)
  others : ∀ member ∈ members, member.1 ∉ fieldNames → Written .value member.2

/-- The bytes are a document of the claims. -/
inductive WrittenAs (c : Claims) : Bytes → Prop where
  | object {before s after : Bytes} {members : List (String × Bytes)} (before_blank : Blank before)
      (written : Members true members s) (after_blank : Blank after)
      (fields : c.InMembers members) :
      WrittenAs c (before ++ 123 :: (s ++ after))

/-- The fields of claims in their order. -/
def fields : Fields [String, Option String, Option String, Option String] :=
  .cons (defaulting "environment" .text "") <|
  .cons (nullable "clusterIdentifier" .text) <|
  .cons (nullable "accountID" .text) <|
  .cons (nullable "environmentIdentifier" .text) .nil

theorem InMembers.readsAs {c : Claims} {members : List (String × Bytes)} (h : c.InMembers members)
    (bounds : Json.Bounds) : ∀ member ∈ members,
      fields.ReadsAs bounds member.1 member.2 (Json.textOrNull member.2) := by
  rintro ⟨name, v⟩ mem
  obtain ⟨w, only, writes⟩ := h.environment
  refine Fields.readsAs_cons (fun own : "environment" = name => ?_)
    fun no_environment : "environment" ≠ name =>
      Fields.readsAs_cons (fun own : "clusterIdentifier" = name => ?_)
    fun no_cluster : "clusterIdentifier" ≠ name =>
      Fields.readsAs_cons (fun own : "accountID" = name => ?_)
    fun no_account : "accountID" ≠ name =>
      Fields.readsAs_cons (fun own : "environmentIdentifier" = name => ?_)
    fun no_label : "environmentIdentifier" ≠ name => ?_
  · subst own
    obtain rfl := Json.eq_of_bytesNamed only mem
    exact writes.readsAs bounds
  · subst own
    exact h.cluster.readsAs bounds v (Json.mem_bytesNamed mem)
  · subst own
    exact h.account.readsAs bounds v (Json.mem_bytesNamed mem)
  · subst own
    exact h.environmentLabel.readsAs bounds v (Json.mem_bytesNamed mem)
  · refine h.others _ mem ?_
    simp [fieldNames, Ne.symm no_environment, Ne.symm no_cluster, Ne.symm no_account,
      Ne.symm no_label]

theorem InMembers.valuesOf {c : Claims} {members : List (String × Bytes)}
    (h : c.InMembers members) :
    fields.valuesOf (members.map fun member => (member.1, Json.textOrNull member.2)) =
      some (c.environment, c.cluster, c.account, c.environmentLabel, ()) := by
  obtain ⟨w, only, writes⟩ := h.environment
  have environment : (defaulting "environment" Format.text "").valueOf
      ((Json.bytesNamed "environment" members).map Json.textOrNull) = some c.environment := by
    rw [only]
    exact writes.decode
  have cluster := h.cluster.valueOf "clusterIdentifier"
  have account := h.account.valueOf "accountID"
  have label := h.environmentLabel.valueOf "environmentIdentifier"
  simp only [← Json.named_map] at environment cluster account label
  exact Fields.valuesOf_cons_eq_some (by decide) environment <|
    Fields.valuesOf_cons_eq_some (by decide) cluster <|
    Fields.valuesOf_cons_eq_some (by decide) account <|
    Fields.valuesOf_cons_eq_some (by decide) label rfl

/-- A document of claims holds them. -/
theorem WrittenAs.ofBytes {c : Claims} {document : Bytes} (h : c.WrittenAs document) :
    format.ofBytes document = .ok c := by
  cases h with
  | object before_blank written after_blank members =>
    exact Format.ofBytes_record "struct Claims" _ _ before_blank written after_blank
      (fun _ _ => members.readsAs _) members.valuesOf

/-- There is a document of all claims: the one that is printed for them. -/
theorem writtenAs_toBytes (c : Claims) : c.WrittenAs (format.encode c).toBytes := by
  have optional (t : Option String) :
      Json.WritesOptional t [Utf8.encode (Json.write (Format.text.optional.encode t))] := by
    cases t with
    | none => exact .null
    | some t => exact .text (Json.writesText_write t)
  obtain ⟨s, bytes, written⟩ := Json.exists_members_write
    [("environment", .text c.environment),
      ("clusterIdentifier", Format.text.optional.encode c.cluster),
      ("accountID", Format.text.optional.encode c.account),
      ("environmentIdentifier", Format.text.optional.encode c.environmentLabel)]
  have document : (format.encode c).toBytes = [] ++ 123 :: (s ++ []) := by
    rw [List.append_nil, List.nil_append]
    exact bytes
  rw [document]
  refine .object Blank.nil written Blank.nil
    ⟨⟨_, rfl, Json.writesText_write _⟩, optional _, optional _, optional _,
      fun member mem unknown => ?_⟩
  simp only [Json.printedMembers, List.map_cons, List.map_nil, List.mem_cons, List.not_mem_nil,
    or_false] at mem
  rcases mem with rfl | rfl | rfl | rfl <;> exact absurd (by simp [fieldNames]) unknown

end Claims

/-! ## Tokens -/

/-- Nothing, or what stands behind the second part of a token: a dot and anything. -/
def IsRemainder (tail : Bytes) : Prop := tail = [] ∨ tail.head? = some 46

/-- The second one of the parts of a token, which have dots between them. -/
inductive SecondPart : Bytes → Option Bytes → Prop where
  | missing {token : Bytes} (dotless : 46 ∉ token) : SecondPart token none
  | between {header payload tail : Bytes} (header_dotless : 46 ∉ header)
      (payload_dotless : 46 ∉ payload) (ends : IsRemainder tail) :
      SecondPart (header ++ 46 :: (payload ++ tail)) (some payload)

theorem SecondPart.payload?_eq {token : Bytes} {part : Option Bytes} (h : SecondPart token part) :
    payload? token = part := by
  have plain {s : Bytes} (dotless : 46 ∉ s) : ∀ b ∈ s, decide (b ≠ (46 : UInt8)) = true := by
    intro b mem
    simpa using fun same : b = 46 => dotless (same ▸ mem)
  cases h with
  | missing dotless =>
    have dropped : (token ++ []).dropWhile (fun b => decide (b ≠ (46 : UInt8))) = [] :=
      dropWhile_append_of_stop (plain dotless) fun b mem => nomatch mem
    rw [List.append_nil] at dropped
    simp only [payload?, dropped]
  | @between header payload tail header_dotless payload_dotless ends =>
    have dropped : (header ++ 46 :: (payload ++ tail)).dropWhile
        (fun b => decide (b ≠ (46 : UInt8))) = 46 :: (payload ++ tail) := by
      refine dropWhile_append_of_stop (plain header_dotless) fun b mem => ?_
      obtain rfl := Option.some.inj mem
      rfl
    have taken : (payload ++ tail).takeWhile (fun b => decide (b ≠ (46 : UInt8))) = payload := by
      refine takeWhile_append_of_stop (plain payload_dotless) fun b mem => ?_
      rcases ends with rfl | dot
      · exact nomatch mem
      · obtain rfl := Option.some.inj (dot.symm.trans mem)
        rfl
    simp only [payload?, dropped, taken]

/-- Dots are no symbols. -/
theorem Base64.Writes.dotless {bytes s : Bytes} (h : Base64.Writes bytes s) : 46 ∉ s := by
  have symbol {b : UInt8} {v : Nat} (carries : Base64.Carries b v) : 46 ≠ b := by
    rintro rfl
    exact nomatch carries.value?_safe
  induction h with
  | nil => exact List.not_mem_nil
  | three first second third fourth _ ih =>
    simp [symbol first, symbol second, symbol third, symbol fourth, ih]
  | two first second third padded =>
    rcases padded with rfl | rfl <;> simp [symbol first, symbol second, symbol third]
  | one first second padded =>
    rcases padded with rfl | rfl <;> simp [symbol first, symbol second]

theorem not_mem_of_interchangeable {s s' : Bytes} (h : List.Forall₂ Base64.Interchangeable s s')
    (dotless : 46 ∉ s) : 46 ∉ s' := by
  induction h with
  | nil => exact dotless
  | @cons b b' _ _ same _ ih =>
    obtain ⟨first, rest⟩ := not_or.1 (mt List.mem_cons.2 dotless)
    have other : 46 ≠ b' := by
      rintro rfl
      rcases same with rfl | ⟨-, same⟩ | ⟨-, same⟩ | ⟨-, same⟩ | ⟨-, same⟩
      · exact first rfl
      · exact nomatch same
      · exact nomatch same
      · exact nomatch same
      · exact nomatch same
    exact fun mem => (List.mem_cons.1 mem).elim other (ih rest)

namespace Claims

/-- The claims of the bytes that the symbols of a second part carry. -/
def ofPayload (payload : Bytes) : Except TokenFault Claims := do
  let bytes ← (Base64.decode (payload.map Base64.safe)).mapError .encoding
  let claims ← (format.ofBytes bytes).mapError .claims
  if claims.environment.isEmpty then .error .noEnvironment else .ok claims

theorem ofToken_between {header payload tail : Bytes} (header_dotless : 46 ∉ header)
    (payload_dotless : 46 ∉ payload) (ends : IsRemainder tail) :
    ofToken (header ++ 46 :: (payload ++ tail)) = ofPayload payload := by
  rw [ofToken, (SecondPart.between header_dotless payload_dotless ends).payload?_eq]
  rfl

theorem ofPayload_of_writes {c : Claims} {document payload : Bytes} (named : c.environment ≠ "")
    (written : c.WrittenAs document) (writes : Base64.Writes document payload) :
    ofPayload payload = .ok c := by
  rw [ofPayload, Base64.decode_of_writes writes]
  simp [Except.mapError, ok_bind, written.ofBytes, named]

theorem ofPayload_of_append {payload pad : Bytes} {c : Claims} (padded : ∀ b ∈ pad, b = 61)
    (accepted : ofPayload (payload ++ pad) = .ok c) : ofPayload payload = .ok c := by
  have same : pad.map Base64.safe = pad := by
    refine (List.map_congr_left fun b mem => ?_).trans (List.map_id pad)
    rw [padded b mem]
    rfl
  rw [ofPayload, List.map_append, same] at accepted
  obtain ⟨bytes, decoded, accepted⟩ := bind_eq_ok_iff.1 accepted
  have unpadded := Base64.decode_of_append padded (mapError_eq_ok_iff.1 decoded)
  rw [ofPayload, unpadded]
  exact accepted

/-- What is known of the tokens with these first and last parts. -/
structure Travels (header tail : Bytes) : Prop where
  /-- Claims arrive, however their document and its symbols are written. -/
  arrive : ∀ (c : Claims) document payload, c.environment ≠ "" → c.WrittenAs document →
    Base64.Writes document payload → ofToken (header ++ 46 :: (payload ++ tail)) = .ok c
  /-- Only the second part counts. -/
  alone : ∀ token token' part, SecondPart token part → SecondPart token' part →
    ofToken token = ofToken token'
  /-- The alphabets may be exchanged. -/
  exchanged : ∀ payload payload', 46 ∉ payload →
    List.Forall₂ Base64.Interchangeable payload payload' →
      ofToken (header ++ 46 :: (payload' ++ tail)) = ofToken (header ++ 46 :: (payload ++ tail))
  /-- What is accepted with padding is accepted without it. -/
  unpadded : ∀ payload pad c, 46 ∉ payload → (∀ b ∈ pad, b = 61) →
    ofToken (header ++ 46 :: (payload ++ pad ++ tail)) = .ok c →
      ofToken (header ++ 46 :: (payload ++ tail)) = .ok c

/-- Claims travel in the second part of a token, whatever its other parts are. -/
theorem travels_of_dotless {header tail : Bytes} (dotless : 46 ∉ header) (ends : IsRemainder tail) :
    Travels header tail where
  arrive c document payload named written writes := by
    rw [ofToken_between dotless writes.dotless ends]
    exact ofPayload_of_writes named written writes
  alone token token' part h h' := by
    rw [ofToken, ofToken, h.payload?_eq, h'.payload?_eq]
  exchanged payload payload' plain same := by
    rw [ofToken_between dotless plain ends,
      ofToken_between dotless (not_mem_of_interchangeable same plain) ends, ofPayload, ofPayload,
      Base64.map_safe_eq same]
  unpadded payload pad c plain padded accepted := by
    have plain_pad : 46 ∉ payload ++ pad := by
      rw [List.mem_append]
      rintro (mem | mem)
      · exact plain mem
      · exact nomatch padded 46 mem
    rw [ofToken_between dotless plain_pad ends] at accepted
    rw [ofToken_between dotless plain ends]
    exact ofPayload_of_append padded accepted

/-- Claims with a letter of two bytes and a slash, and without a cluster. -/
def lettered : Claims where
  environment := "ü"
  account := some "a/b"

theorem travels_of_dotless_lettered :
    let symbols := Base64.encode (format.encode lettered).toBytes
    ofToken ([104] ++ 46 :: (symbols ++ Base64.fillUp symbols.length ++ [46, 115])) = .ok lettered ∧
      ofToken ([104] ++ 46 :: (symbols ++ [46, 115])) = .ok lettered ∧
      ofToken [46, 43, 46] = ofToken [104, 46, 45, 46, 115] := by
  intro symbols
  have travels : Travels [104] [46, 115] := travels_of_dotless (by decide) (.inr rfl)
  have named : lettered.environment ≠ "" := by decide
  have document := writtenAs_toBytes lettered
  have writes := Base64.writes_encode (format.encode lettered).toBytes
  have padded : ∀ b ∈ Base64.fillUp symbols.length, b = 61 :=
    fun b mem => List.eq_of_mem_replicate mem
  have arrived := travels.arrive lettered _ _ named document writes.2
  refine ⟨arrived, travels.unpadded symbols _ lettered writes.1.dotless padded arrived, ?_⟩
  have bare : SecondPart ([] ++ 46 :: ([43] ++ [46])) (some [43]) :=
    .between (by decide) (by decide) (.inr rfl)
  have headed : SecondPart ([104] ++ 46 :: ([43] ++ [46, 115])) (some [43]) :=
    .between (by decide) (by decide) (.inr rfl)
  refine (travels.alone _ _ _ bare headed).trans ?_
  exact travels.exchanged [45] [43] (by decide) (.cons (.inr (.inr (.inl ⟨rfl, rfl⟩))) .nil)

end Claims

end FlagHost

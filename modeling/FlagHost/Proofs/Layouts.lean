import FlagHost.Proofs.Consuming
import FlagHost.Proofs.Dispatch
import FlagHost.Proofs.Lengths
import FlagHost.Proofs.Reading

/-!
# Layouts of checks

`CheckRequest.WrittenAs request body` says that the bytes `body` are an object with the fields of
the request: in any order, with blanks and escapes wherever they may stand, and with other members
among them, in the object of the target too. Main statement: every such body is dealt with as the
one that is printed for the request, and an object that is `Flawed` is answered with a fault before
any client is asked.
-/

namespace FlagHost

open Json (Blank Bounds Members Written WritesText Format Fields bytesNamed)

namespace Json

/-- The value of a field that comes once. -/
theorem valueOf_required {α : Type} {name : String} {f : Format α} {document : Bytes → Json}
    {members : List (String × Bytes)} {v : Bytes} {a : α} (only : bytesNamed name members = [v])
    (decoded : f.decode (document v) = some a) :
    (required name f).valueOf
      (named name (members.map fun member => (member.1, document member.2))) = some a := by
  rw [named_map, only]
  exact decoded

end Json

/-! ## Targets as documents -/

namespace CheckTarget

/-- The names of the fields of a target. -/
def fieldNames : List String := ["target_identifier", "target_name"]

/-- The members have the fields of the target, and others that are only written correctly. -/
structure InMembers (t : CheckTarget) (members : List (String × Bytes)) : Prop where
  identifier : ∃ v, bytesNamed "target_identifier" members = [v] ∧ WritesText t.identifier v
  name : ∃ v, bytesNamed "target_name" members = [v] ∧ WritesText t.name v
  others : ∀ member ∈ members, member.1 ∉ fieldNames → Written .value member.2

/-- The bytes are an object of the target. -/
inductive WrittenAs (t : CheckTarget) : Bytes → Prop where
  | object {s : Bytes} {members : List (String × Bytes)} (written : Members true members s)
      (fields : t.InMembers members) : WrittenAs t (123 :: s)

/-- The fields of a target in their order. -/
def fields : Fields [String, String] :=
  .cons (required "target_identifier" .text) <| .cons (required "target_name" .text) .nil

variable {t : CheckTarget} {members : List (String × Bytes)} {v : Bytes}

theorem InMembers.readsAs (h : t.InMembers members) (bounds : Bounds) :
    ∀ member ∈ members, fields.ReadsAs bounds member.1 member.2 (Json.textOrNull member.2) := by
  rintro ⟨name, v⟩ mem
  obtain ⟨v₁, identifier, writes_identifier⟩ := h.identifier
  obtain ⟨v₂, called, writes_name⟩ := h.name
  refine Fields.readsAs_cons (fun own : "target_identifier" = name => ?_)
    fun no_identifier : "target_identifier" ≠ name =>
      Fields.readsAs_cons (fun own : "target_name" = name => ?_)
    fun no_name : "target_name" ≠ name => ?_
  · subst own
    obtain rfl := Json.eq_of_bytesNamed identifier mem
    exact writes_identifier.readsAs bounds
  · subst own
    obtain rfl := Json.eq_of_bytesNamed called mem
    exact writes_name.readsAs bounds
  · refine h.others _ mem ?_
    simp [fieldNames, Ne.symm no_identifier, Ne.symm no_name]

theorem InMembers.valuesOf (h : t.InMembers members) :
    fields.valuesOf (members.map fun member => (member.1, Json.textOrNull member.2)) =
      some (t.identifier, t.name, ()) := by
  obtain ⟨v₁, identifier, writes_identifier⟩ := h.identifier
  obtain ⟨v₂, called, writes_name⟩ := h.name
  exact Fields.valuesOf_cons_eq_some (by decide)
      (Json.valueOf_required identifier writes_identifier.decode) <|
    Fields.valuesOf_cons_eq_some (by decide)
      (Json.valueOf_required called writes_name.decode) rfl

/-- A target is read from its object. -/
theorem WrittenAs.read (h : t.WrittenAs v) {levels items : Nat} (short : v.length ≤ items)
    {blanks : Bytes} (blank : Blank blanks) (rest : Bytes) :
    format.read ⟨levels + 1, items⟩ (blanks ++ (v ++ rest)) = .ok (t, rest) := by
  cases h with
  | object written inside =>
    have read := Format.read_record "struct TargetRequest" written
      (inside.readsAs ⟨levels, items⟩) (Nat.le_of_succ_le short) inside.valuesOf blank rest
    exact congrArg (Except.map _) read

/-- What is printed for a target is the shortest object of it. -/
theorem WrittenAs.length_le (h : t.WrittenAs v) :
    (Utf8.encode (format.encode t).write).length ≤ v.length := by
  cases h with
  | object written inside =>
    obtain ⟨v₁, identifier, writes_identifier⟩ := inside.identifier
    obtain ⟨v₂, called, writes_name⟩ := inside.name
    have distinct : fieldNames.Nodup := by decide
    refine written.length_write_le (List.cons_ne_nil _ _) distinct ?_
    refine List.forall_mem_cons.2 ⟨⟨v₁, Json.mem_of_bytesNamed identifier, ?_⟩,
      List.forall_mem_singleton.2 ⟨v₂, Json.mem_of_bytesNamed called, ?_⟩⟩
    · exact writes_identifier.length_le
    · exact writes_name.length_le

theorem writtenAs_toBytes (t : CheckTarget) : t.WrittenAs (format.encode t).toBytes := by
  obtain ⟨s, bytes, written⟩ := Json.exists_members_write
    [("target_identifier", .text t.identifier), ("target_name", .text t.name)]
  have document : (format.encode t).toBytes = 123 :: s := bytes
  rw [document]
  refine .object written ⟨⟨_, rfl, Json.writesText_write _⟩, ⟨_, rfl, Json.writesText_write _⟩,
    fun member mem unknown => ?_⟩
  simp only [Json.printedMembers, List.map_cons, List.map_nil, List.mem_cons, List.not_mem_nil,
    or_false] at mem
  rcases mem with rfl | rfl <;> exact absurd (by simp [fieldNames]) unknown

/-- A field is missing or repeated, or it is no text. -/
inductive Flawed (members : List (String × Bytes)) : Prop where
  | notOnce {name : String} (known : name ∈ fieldNames)
      (count : (bytesNamed name members).length ≠ 1) : Flawed members
  | noText {name : String} {v : Bytes} (known : name ∈ fieldNames) (mem : (name, v) ∈ members)
      (other : v.head? ≠ some 34) : Flawed members

theorem consume_fields : fields.Consume := ⟨Format.consumes_text, Format.consumes_text, trivial⟩

theorem wantsText : ∀ name ∈ fieldNames, fields.WantsText name := by
  rw [fieldNames, List.forall_mem_cons, List.forall_mem_singleton]
  exact ⟨⟨rfl, fun _ _ accepted => accepted⟩, ⟨rfl, fun _ _ accepted => accepted⟩⟩

/-- A target is not read from an object that has a flaw. -/
theorem Flawed.read_ne_ok (h : Flawed members) {s : Bytes} (written : Members true members s)
    (values : ∀ member ∈ members, Written .value member.2) {bounds : Bounds}
    (short : s.length ≤ bounds.items) {blanks rest rest' : Bytes} (blank : Blank blanks) :
    format.read bounds (blanks ++ 123 :: (s ++ rest)) ≠ .ok (t, rest') := by
  intro read
  obtain ⟨⟨as, behind⟩, record, -⟩ := map_eq_ok_iff.1 read
  have texts {name : String} (known : name ∈ fieldNames) : Json.OneText name members :=
    Format.oneText_of_record _ consume_fields written values short blank record
      (wantsText name known)
  cases h with
  | notOnce known count => exact count (texts known).length_eq
  | noText known mem other => exact other ((texts known).head?_eq mem)

end CheckTarget

/-! ## Checks as documents -/

namespace CheckRequest

/-- The names of the fields of a request. -/
def fieldNames : List String := ["flag_kind", "flag_key", "target"]

/-- The members have the fields of the request, and others that are only written correctly. -/
structure InMembers (r : CheckRequest) (members : List (String × Bytes)) : Prop where
  kind : ∃ v, bytesNamed "flag_kind" members = [v] ∧ WritesText r.kind v
  key : ∃ v, bytesNamed "flag_key" members = [v] ∧ WritesText r.key v
  target : ∃ v, bytesNamed "target" members = [v] ∧ r.target.WrittenAs v
  others : ∀ member ∈ members, member.1 ∉ fieldNames → Written .value member.2

/-- The bytes are an object of the request, with blanks around it. -/
inductive WrittenAs (r : CheckRequest) : Bytes → Prop where
  | object {before s after : Bytes} {members : List (String × Bytes)} (before_blank : Blank before)
      (written : Members true members s) (after_blank : Blank after)
      (fields : r.InMembers members) :
      WrittenAs r (before ++ 123 :: (s ++ after))

/-- The fields of a request in their order. -/
def fields : Fields [String, String, CheckTarget] :=
  .cons (required "flag_kind" .text) <|
  .cons (required "flag_key" .text) <|
  .cons (required "target" CheckTarget.format) .nil

/-- The target that bytes write; otherwise the text, or null. -/
def targetOrText (v : Bytes) : Json :=
  match CheckTarget.format.read ⟨1, v.length⟩ v with
  | .ok (t, _) => CheckTarget.format.encode t
  | .error _ => Json.textOrNull v

variable {r : CheckRequest} {members : List (String × Bytes)} {v : Bytes}

theorem targetOrText_text {t : String} (writes : WritesText t v) :
    targetOrText v = Json.textOrNull v := by
  cases writes with
  | quoted spells => rfl

theorem targetOrText_target {t : CheckTarget} (written : t.WrittenAs v) :
    targetOrText v = CheckTarget.format.encode t := by
  have read : CheckTarget.format.read ⟨0 + 1, v.length⟩ ([] ++ (v ++ [])) = .ok (t, []) :=
    written.read (Nat.le_refl _) Blank.nil []
  rw [List.nil_append, List.append_nil] at read
  rw [targetOrText, read]

/-- The document of a target is read as the target of its bytes. -/
theorem readsAs_target {t : CheckTarget} (written : t.WrittenAs v) {levels items : Nat}
    (short : v.length ≤ items) :
    CheckTarget.format.ReadsAs ⟨levels + 1, items⟩ v (targetOrText v) := by
  intro a decoded blanks rest blank _
  rw [targetOrText_target written] at decoded
  obtain rfl : t = a := Option.some.inj decoded
  exact written.read short blank rest

theorem InMembers.readsAs (h : r.InMembers members) {items : Nat}
    (short : ∀ member ∈ members, member.2.length ≤ items) :
    ∀ member ∈ members,
      fields.ReadsAs ⟨Json.nestingLimit - 1, items⟩ member.1 member.2 (targetOrText member.2) := by
  rintro ⟨name, v⟩ mem
  obtain ⟨v₁, kind, writes_kind⟩ := h.kind
  obtain ⟨v₂, key, writes_key⟩ := h.key
  obtain ⟨v₃, target, target_written⟩ := h.target
  refine Fields.readsAs_cons (fun own : "flag_kind" = name => ?_)
    fun no_kind : "flag_kind" ≠ name =>
      Fields.readsAs_cons (fun own : "flag_key" = name => ?_)
    fun no_key : "flag_key" ≠ name =>
      Fields.readsAs_cons (fun own : "target" = name => ?_)
    fun no_target : "target" ≠ name => ?_
  · subst own
    obtain rfl := Json.eq_of_bytesNamed kind mem
    dsimp only
    rw [targetOrText_text writes_kind]
    exact writes_kind.readsAs _
  · subst own
    obtain rfl := Json.eq_of_bytesNamed key mem
    dsimp only
    rw [targetOrText_text writes_key]
    exact writes_key.readsAs _
  · subst own
    obtain rfl := Json.eq_of_bytesNamed target mem
    exact readsAs_target target_written (short _ mem)
  · refine h.others _ mem ?_
    simp [fieldNames, Ne.symm no_kind, Ne.symm no_key, Ne.symm no_target]

theorem InMembers.valuesOf (h : r.InMembers members) :
    fields.valuesOf (members.map fun member => (member.1, targetOrText member.2)) =
      some (r.kind, r.key, r.target, ()) := by
  obtain ⟨v₁, kind, writes_kind⟩ := h.kind
  obtain ⟨v₂, key, writes_key⟩ := h.key
  obtain ⟨v₃, target, target_written⟩ := h.target
  have text {t : String} {v : Bytes} (writes : WritesText t v) :
      Format.text.decode (targetOrText v) = some t := by
    rw [targetOrText_text writes]
    exact writes.decode
  have decoded : CheckTarget.format.decode (targetOrText v₃) = some r.target := by
    rw [targetOrText_target target_written]
    rfl
  exact Fields.valuesOf_cons_eq_some (by decide) (Json.valueOf_required kind (text writes_kind)) <|
    Fields.valuesOf_cons_eq_some (by decide) (Json.valueOf_required key (text writes_key)) <|
    Fields.valuesOf_cons_eq_some (by decide) (Json.valueOf_required target decoded) rfl

/-- A document of a request holds it. -/
theorem WrittenAs.ofBytes {body : Bytes} (h : r.WrittenAs body) : format.ofBytes body = .ok r := by
  cases h with
  | object before_blank written after_blank inside =>
    refine Format.ofBytes_record "struct FlagCheckRequest" _ _ before_blank written after_blank
      (fun items short => inside.readsAs fun member mem => ?_) inside.valuesOf
    exact Nat.le_trans (written.length_le_of_mem mem) short

/-- What is printed for a request is its shortest document. -/
theorem WrittenAs.length_le {body : Bytes} (h : r.WrittenAs body) :
    (format.encode r).toBytes.length ≤ body.length := by
  cases h with
  | @object before s after members _ written _ inside =>
    obtain ⟨v₁, kind, writes_kind⟩ := inside.kind
    obtain ⟨v₂, key, writes_key⟩ := inside.key
    obtain ⟨v₃, target, target_written⟩ := inside.target
    have distinct : fieldNames.Nodup := by decide
    have short : (format.encode r).toBytes.length ≤ s.length + 1 := by
      refine written.length_write_le (List.cons_ne_nil _ _) distinct ?_
      refine List.forall_mem_cons.2 ⟨⟨v₁, Json.mem_of_bytesNamed kind, ?_⟩,
        List.forall_mem_cons.2 ⟨⟨v₂, Json.mem_of_bytesNamed key, ?_⟩,
        List.forall_mem_singleton.2 ⟨v₃, Json.mem_of_bytesNamed target, ?_⟩⟩⟩
      · exact writes_kind.length_le
      · exact writes_key.length_le
      · exact target_written.length_le
    simp only [List.length_append, List.length_cons]
    omega

/-- There is a document of every request: the one that is printed for it. -/
theorem writtenAs_toBytes (r : CheckRequest) : r.WrittenAs (format.encode r).toBytes := by
  obtain ⟨s, bytes, written⟩ := Json.exists_members_write
    [("flag_kind", .text r.kind), ("flag_key", .text r.key),
      ("target", CheckTarget.format.encode r.target)]
  have document : (format.encode r).toBytes = [] ++ 123 :: (s ++ []) := by
    rw [List.append_nil, List.nil_append]
    exact bytes
  rw [document]
  refine .object Blank.nil written Blank.nil ⟨⟨_, rfl, Json.writesText_write _⟩,
    ⟨_, rfl, Json.writesText_write _⟩, ⟨_, rfl, r.target.writtenAs_toBytes⟩,
    fun member mem unknown => ?_⟩
  simp only [Json.printedMembers, List.map_cons, List.map_nil, List.mem_cons, List.not_mem_nil,
    or_false] at mem
  rcases mem with rfl | rfl | rfl <;> exact absurd (by simp [fieldNames]) unknown

/-! ## What is refused -/

/-- A field is missing or repeated, a text or the target is something else, or the object of the
target has such a flaw or a name that writes no text. -/
inductive Flawed (members : List (String × Bytes)) : Prop where
  | notOnce {name : String} (known : name ∈ fieldNames)
      (count : (bytesNamed name members).length ≠ 1) : Flawed members
  | noText {name : String} {v : Bytes} (known : name ∈ ["flag_kind", "flag_key"])
      (mem : (name, v) ∈ members) (other : v.head? ≠ some 34) : Flawed members
  | noFrame {v : Bytes} (mem : ("target", v) ∈ members) (no_object : v.head? ≠ some 123)
      (no_list : v.head? ≠ some 91) : Flawed members
  | within {s : Bytes} {inner : List (String × Bytes)} (mem : ("target", 123 :: s) ∈ members)
      (written : Members true inner s) (values : ∀ member ∈ inner, Written .value member.2)
      (flawed : CheckTarget.Flawed inner) : Flawed members
  | nameless {s : Bytes} (mem : ("target", 123 :: s) ∈ members)
      (no_members : ∀ inner, ¬ Members true inner s) : Flawed members

theorem consume_fields : fields.Consume :=
  ⟨Format.consumes_text, Format.consumes_text,
    (Format.consumes_record _ CheckTarget.consume_fields).map _ _, trivial⟩

theorem wantsText : ∀ name ∈ ["flag_kind", "flag_key"], fields.WantsText name := by
  rw [List.forall_mem_cons, List.forall_mem_singleton]
  exact ⟨⟨rfl, fun _ _ accepted => accepted⟩, ⟨rfl, fun _ _ accepted => accepted⟩⟩

/-- The texts and the target come once, and they are accepted. -/
structure Fits (bounds : Bounds) (members : List (String × Bytes)) : Prop where
  text : ∀ name ∈ ["flag_kind", "flag_key"], Json.OneText name members
  target : ∃ v, bytesNamed "target" members = [v] ∧ CheckTarget.format.Accepts bounds v

theorem exists_read_of_ofBytes {before s rest : Bytes}
    (held : format.ofBytes (before ++ 123 :: (s ++ rest)) = .ok r) :
    ∃ bounds as rest', s.length ≤ bounds.items ∧
      (Format.record "struct FlagCheckRequest" fields).read bounds
        (before ++ 123 :: (s ++ rest)) = .ok (as, rest') := by
  obtain ⟨rest', read, -⟩ := (Json.readAll_eq_ok_iff _ _ _).1 (mapError_eq_ok_iff.1 held)
  obtain ⟨⟨as, behind⟩, record, -⟩ := map_eq_ok_iff.1 read
  have short : s.length ≤ (before ++ 123 :: (s ++ rest)).length + 1 := by
    simp only [List.length_append, List.length_cons]
    omega
  exact ⟨_, as, behind, short, record⟩

theorem fits_of_ofBytes {before s rest : Bytes} (before_blank : Blank before)
    (written : Members true members s) (values : ∀ member ∈ members, Written .value member.2)
    (held : format.ofBytes (before ++ 123 :: (s ++ rest)) = .ok r) :
    ∃ bounds : Bounds, s.length ≤ bounds.items ∧ Fits bounds members := by
  obtain ⟨bounds, as, rest', short, record⟩ := exists_read_of_ofBytes held
  obtain ⟨levels, accepts⟩ :=
    Format.exists_accepts_of_record _ consume_fields written values short before_blank record
  refine ⟨⟨levels, bounds.items⟩, short, ⟨fun name known => ?_, accepts "target" rfl⟩⟩
  exact Format.oneText_of_record _ consume_fields written values short before_blank record
    (wantsText name known)

theorem Flawed.not_fits (h : Flawed members) {bounds : Bounds}
    (values : ∀ member ∈ members, Written .value member.2)
    (short : ∀ member ∈ members, member.2.length ≤ bounds.items) : ¬ Fits bounds members := by
  intro fits
  obtain ⟨target, only, blanks, behind, t, blank, read⟩ := fits.target
  cases h with
  | notOnce known count =>
    simp only [fieldNames, List.mem_cons, List.not_mem_nil, or_false] at known
    rcases known with rfl | rfl | rfl
    · exact count (fits.text _ (by simp)).length_eq
    · exact count (fits.text _ (by simp)).length_eq
    · exact count (congrArg List.length only)
  | noText known mem other => exact other ((fits.text _ known).head?_eq mem)
  | noFrame mem no_object no_list =>
    obtain rfl := Json.eq_of_bytesNamed only mem
    obtain ⟨⟨as, behind'⟩, record, -⟩ := map_eq_ok_iff.1 read
    obtain ⟨⟨frame, s, rfl⟩, -⟩ := Format.exists_frame_of_record _
      CheckTarget.consume_fields (values _ mem) (short _ mem) blank record
    cases frame with
    | list => exact no_list rfl
    | object => exact no_object rfl
  | within mem written values' flawed =>
    obtain rfl := Json.eq_of_bytesNamed only mem
    have inside := Nat.le_of_succ_le (short _ mem)
    exact flawed.read_ne_ok written values' inside blank read
  | nameless mem no_members =>
    obtain rfl := Json.eq_of_bytesNamed only mem
    have inside := Nat.le_of_succ_le (short _ mem)
    obtain ⟨⟨as, behind'⟩, record, -⟩ := map_eq_ok_iff.1 read
    obtain ⟨inner, written⟩ := Format.exists_members_of_record _ CheckTarget.consume_fields
      (values _ mem).inside_object inside blank record
    exact no_members inner written

/-- An object that has a flaw holds no request, whatever comes behind it. -/
theorem Flawed.ofBytes_ne_ok (h : Flawed members) {before s rest : Bytes}
    (before_blank : Blank before) (written : Members true members s)
    (values : ∀ member ∈ members, Written .value member.2) (r : CheckRequest) :
    format.ofBytes (before ++ 123 :: (s ++ rest)) ≠ .ok r := by
  intro held
  obtain ⟨bounds, short, fits⟩ := fits_of_ofBytes before_blank written values held
  refine h.not_fits values (fun member mem => ?_) fits
  exact Nat.le_trans (written.length_le_of_mem mem) short

/-- Nor does an object with a name that writes no text. -/
theorem ofBytes_ne_ok_of_nameless {before s rest : Bytes} (before_blank : Blank before)
    (written : Written (.rest .object true) s) (no_members : ∀ members, ¬ Members true members s)
    (r : CheckRequest) : format.ofBytes (before ++ 123 :: (s ++ rest)) ≠ .ok r := by
  intro held
  obtain ⟨bounds, as, rest', short, record⟩ := exists_read_of_ofBytes held
  obtain ⟨members, found⟩ :=
    Format.exists_members_of_record _ consume_fields written short before_blank record
  exact no_members members found

/-! ## Answers -/

/-- A check with this body is answered with a fault, and no question is asked. -/
def Refused (hasClient : Bool) (body : Bytes) : Prop :=
  ∀ asked, requestedPath asked = "/api/1.0/check_flag" →
    ∃ message, handle hasClient "POST" asked body = .done (.plain 500 message)

/-- What is known of a server, with a client or without one. -/
structure LayoutFree (hasClient : Bool) : Prop where
  /-- What is printed for a request is one of its documents. -/
  printed : ∀ r : CheckRequest, r.WrittenAs (format.encode r).toBytes
  /-- Every document of a request holds it, and is dealt with as the one that is printed. -/
  same : ∀ (r : CheckRequest) body, r.WrittenAs body → body.length ≤ bodyLimit →
    r.HeldBy body ∧ ∀ method asked, handle hasClient method asked body =
      handle hasClient method asked (format.encode r).toBytes
  /-- An object that has a flaw is refused, whatever comes behind it. -/
  flawed : ∀ before s rest members, Blank before → Members true members s →
    (∀ member ∈ members, Written .value member.2) → Flawed members →
      Refused hasClient (before ++ 123 :: (s ++ rest))
  /-- So is an object with a name that writes no text. -/
  nameless : ∀ before s rest, Blank before → Written (.rest .object true) s →
    (∀ members, ¬ Members true members s) → Refused hasClient (before ++ 123 :: (s ++ rest))

/-- Requests that hold the same are dealt with alike. -/
theorem handle_of_held {body body' : Bytes} (held : r.HeldBy body) (held' : r.HeldBy body')
    (hasClient : Bool) (method asked : String) :
    handle hasClient method asked body = handle hasClient method asked body' := by
  have document (route : Route) :
      route.document hasClient body = route.document hasClient body' := by
    cases route with
    | version => rfl
    | ping => rfl
    | checkFlag => simp only [Route.document, checkFlag, held.ofBody_eq, held'.ofBody_eq]
  unfold handle
  simp only [document]

theorem refused_of_unread {body : Bytes} (unread : ∀ r, format.ofBytes body ≠ .ok r)
    (hasClient : Bool) : Refused hasClient body := by
  intro asked at_path
  have same : requestedPath asked = Route.checkFlag.path := at_path
  have taken := handle_of_taken same hasClient rfl body
  have fails : ∃ failure, FirstFailure hasClient body failure := by
    refine (fails_or_known hasClient body).resolve_right ?_
    rintro ⟨request, kind, held, -⟩
    exact unread request held.2
  obtain ⟨failure, fails⟩ := fails
  obtain ⟨fault, ends, rfl⟩ := fails.checkFlag_eq
  rw [Route.document, ends] at taken
  exact ⟨fault.message, taken⟩

/-- How a check is laid out does not matter, and a flawed one is refused. -/
theorem layoutFree (hasClient : Bool) : LayoutFree hasClient where
  printed := writtenAs_toBytes
  same r body written small := by
    have held : r.HeldBy body := ⟨small, written.ofBytes⟩
    have printed : r.HeldBy (format.encode r).toBytes :=
      ⟨Nat.le_trans written.length_le small, (writtenAs_toBytes r).ofBytes⟩
    exact ⟨held, handle_of_held held printed hasClient⟩
  flawed before s rest members before_blank written values flawed :=
    refused_of_unread (flawed.ofBytes_ne_ok before_blank written values) hasClient
  nameless before s rest before_blank written no_members :=
    refused_of_unread (ofBytes_ne_ok_of_nameless before_blank written no_members) hasClient

/-- A request in another order and with another member, and one without a target. -/
theorem layoutFree_rearranged :
    let request : CheckRequest := ⟨"int", "k", ⟨"i", "t"⟩⟩
    let target := Json.object
      [("target_name", .text "t"), ("note", .list [.null]), ("target_identifier", .text "i")]
    let rearranged := Json.object
      [("target", target), ("flag_key", .text "k"), ("flag_kind", .text "int")]
    let targetless := Json.object [("flag_kind", .text "int"), ("flag_key", .text "k")]
    handle true "POST" "/api/1.0/check_flag" rearranged.toBytes =
        handle true "POST" "/api/1.0/check_flag" (format.encode request).toBytes ∧
      ∃ message, handle true "POST" "/api/1.0/check_flag" targetless.toBytes =
        .done (.plain 500 message) := by
  intro request target rearranged targetless
  have integral : Json.Integral target := .object <| by
    simp [Json.Integral.text, Json.Integral.list, Json.Integral.null]
  obtain ⟨inner, inner_bytes, inner_written⟩ := Json.exists_members_write
    [("target_name", .text "t"), ("note", .list [.null]), ("target_identifier", .text "i")]
  have target_written : request.target.WrittenAs (Utf8.encode target.write) := by
    rw [inner_bytes]
    exact .object inner_written ⟨⟨_, rfl, Json.writesText_write "i"⟩,
      ⟨_, rfl, Json.writesText_write "t"⟩, fun member mem _ => integral.written_of_mem member mem⟩
  have integral : Json.Integral rearranged := .object <| by simp [integral, Json.Integral.text]
  obtain ⟨s, bytes, written⟩ := Json.exists_members_write
    [("target", target), ("flag_key", .text "k"), ("flag_kind", .text "int")]
  have is_written : request.WrittenAs ([] ++ 123 :: (s ++ [])) :=
    .object Blank.nil written Blank.nil ⟨⟨_, rfl, Json.writesText_write "int"⟩,
      ⟨_, rfl, Json.writesText_write "k"⟩, ⟨_, rfl, target_written⟩,
      fun member mem _ => integral.written_of_mem member mem⟩
  rw [List.append_nil, List.nil_append, ← bytes] at is_written
  refine ⟨((layoutFree true).same request _ is_written (by decide +kernel)).2 _ _, ?_⟩
  have integral : Json.Integral targetless := .object <| by simp [Json.Integral.text]
  obtain ⟨s, bytes, written⟩ := Json.exists_members_write
    [("flag_kind", .text "int"), ("flag_key", .text "k")]
  have document : targetless.toBytes = [] ++ 123 :: (s ++ []) := by
    rw [List.append_nil, List.nil_append]
    exact bytes
  rw [document]
  exact (layoutFree true).flawed [] s [] _ Blank.nil written integral.written_of_mem
    (@Flawed.notOnce _ "target" (by decide) (by decide)) _ rfl

end CheckRequest

end FlagHost

import FlagHost.Proofs.Codecs
import FlagHost.Proofs.Isolation

/-!
# Configurations come to rest

Lists of flags are read one attempt at a time: an entry gives a flag, or else is kept as the
document that it is. Main statement: what came of an entry can be written down and attempted again,
and comes to the same, for flags as for segments. So a configuration that was read once has its
normal form, and is read from it again.

An entry is kept by its value, in which each name stands once. Where an entry names a field twice it
is broken, and its value may be none the less a flag; then it takes a second attempt to come to
rest.
-/

namespace FlagHost

namespace Json

/-- The value of a document: each name of an object once, and in order. -/
@[ext] structure Value where
  document : Json
  canonical_eq : document.canonical = document

/-- The value of a document. -/
def value (v : Json) : Value := ⟨v.canonical, canonical_canonical v⟩

theorem Value.value_document (v : Value) : v.document.value = v := Value.ext v.canonical_eq

/-- What comes of a document of which a format is expected. -/
inductive Attempt (α : Type) where
  | parsed (a : α)
  | failed (v : Value)

namespace Attempt

variable {α : Type} (f : Format α)

/-- Attempts a document. -/
def ofDocument (v : Json) : Attempt α :=
  match f.decode v with
  | some a => .parsed a
  | none => .failed v.value

/-- What is written for the outcome of an attempt. -/
def document : Attempt α → Json
  | .parsed a => f.encode a
  | .failed v => v.document

/-- The value that an attempt came to. -/
def value? : Attempt α → Option α
  | .parsed a => some a
  | .failed _ => none

/-- A document in its normal form. -/
def normal (v : Json) : Json := (ofDocument f v).document f

variable {f}

theorem ofDocument_of_some {v : Json} {a : α} (decoded : f.decode v = some a) :
    ofDocument f v = .parsed a := by
  rw [ofDocument, decoded]

theorem ofDocument_of_none {v : Json} (broken : f.decode v = none) :
    ofDocument f v = .failed v.value := by
  rw [ofDocument, broken]

theorem value?_ofDocument (v : Json) : (ofDocument f v).value? = f.decode v := by
  cases decoded : f.decode v with
  | none => rw [ofDocument_of_none decoded, value?]
  | some a => rw [ofDocument_of_some decoded, value?]

/-- The entries that a configuration is made of are those whose attempts succeed. -/
theorem filterMap_value? (vs : List Json) :
    (vs.map (ofDocument f)).filterMap value? = Configuration.decodable f vs := by
  rw [List.filterMap_map, Configuration.decodable]
  exact List.filterMap_congr fun v _ => value?_ofDocument v

end Attempt

/-- Attempts at the documents of a format. -/
def Format.attempt {α : Type} (f : Format α) : Format (Attempt α) :=
  Format.document.map (Attempt.ofDocument f) (Attempt.document f)

section Laws

variable {α : Type} {f : Format α} {levels : Nat}

theorem Format.faithful_attempt (f : Format α) : f.attempt.Faithful :=
  faithful_document.map _ _

theorem Format.decode_attempts (f : Format α) (vs : List Json) :
    f.attempt.list.decode (.list vs) = some (vs.map (Attempt.ofDocument f)) := by
  refine (decodeAll_eq_some_iff f.attempt vs _).2 (List.forall₂_map_right_iff.2 ?_)
  exact List.forall₂_same.2 fun v _ => rfl

namespace Format.Lawful

variable (h : f.Lawful levels)
include h

theorem ofDocument_encode (a : α) : Attempt.ofDocument f (f.encode a) = .parsed a :=
  Attempt.ofDocument_of_some (h.decode_encode a)

theorem normal_of_some {v : Json} {a : α} (decoded : f.decode v = some a) :
    Attempt.ofDocument f (Attempt.normal f v) = Attempt.ofDocument f v := by
  rw [Attempt.normal, Attempt.ofDocument_of_some decoded]
  exact h.ofDocument_encode a

/-- The normal form of a value comes to what the value comes to. -/
theorem ofDocument_normal (v : Value) :
    Attempt.ofDocument f (Attempt.normal f v.document) = Attempt.ofDocument f v.document := by
  cases decoded : f.decode v.document with
  | some a => exact h.normal_of_some decoded
  | none =>
    have kept : Attempt.normal f v.document = v.document := by
      rw [Attempt.normal, Attempt.ofDocument_of_none decoded, v.value_document, Attempt.document]
    rw [kept]

/-- Any document comes to rest at the second attempt. -/
theorem ofDocument_normal_normal (v : Json) :
    Attempt.ofDocument f (Attempt.normal f (Attempt.normal f v)) =
      Attempt.ofDocument f (Attempt.normal f v) := by
  cases decoded : f.decode v with
  | some a =>
    have parsed : f.decode (Attempt.normal f v) = some a := by
      rw [Attempt.normal, Attempt.ofDocument_of_some decoded]
      exact h.decode_encode a
    exact h.normal_of_some parsed
  | none =>
    have kept : Attempt.normal f v = v.value.document := by
      rw [Attempt.normal, Attempt.ofDocument_of_none decoded, Attempt.document]
    rw [kept]
    exact h.ofDocument_normal v.value

/-- What is decoded from values is decoded from their normal forms. -/
theorem decodable_normal (vs : List Value) :
    Configuration.decodable f (vs.map fun v => Attempt.normal f v.document) =
      Configuration.decodable f (vs.map Value.document) := by
  rw [← Attempt.filterMap_value?, ← Attempt.filterMap_value?, List.map_map, List.map_map]
  refine congrArg (List.filterMap Attempt.value?) (List.map_congr_left fun v _ => ?_)
  exact h.ofDocument_normal v

theorem decodable_encode (as : List α) : Configuration.decodable f (as.map f.encode) = as := by
  have each : f.decode ∘ f.encode = some := funext h.decode_encode
  rw [Configuration.decodable, List.filterMap_map, each, List.filterMap_some]

theorem integral_normal {v : Json} (integral : Integral v) : Integral (Attempt.normal f v) := by
  cases decoded : f.decode v with
  | some a =>
    rw [Attempt.normal, Attempt.ofDocument_of_some decoded]
    exact h.integral a
  | none =>
    rw [Attempt.normal, Attempt.ofDocument_of_none decoded]
    exact integral.canonical

theorem within_normal {v : Json} (within : Within levels v) :
    Within levels (Attempt.normal f v) := by
  cases decoded : f.decode v with
  | some a =>
    rw [Attempt.normal, Attempt.ofDocument_of_some decoded]
    exact h.within a
  | none =>
    rw [Attempt.normal, Attempt.ofDocument_of_none decoded]
    exact within.canonical

end Format.Lawful

/-- What is known of values that are written down and read again, as documents and as bytes. What is
broken is kept as the document that it is, which can have doubles anywhere. The reader of numbers is
off by a little for some decimals, so that it gives some doubles back changed: in bytes, lists with
broken entries and broken values by themselves settle where there are no doubles. What a flag or a
segment is written as has none, so its bytes need no such condition. -/
structure Format.Settles (f : Format α) : Prop where
  decode_encode : ∀ a, f.decode (f.encode a) = some a ∧ f.decode (f.encode a).canonical = some a
  ofBytes_encode : ∀ a, f.ofBytes (f.encode a).toBytes = .ok a ∧
    f.ofBytes (f.encode a).canonical.toBytes = .ok a
  /-- A value in a list of any documents is parsed there. -/
  decode_among : ∀ a before after,
    f.attempt.list.decode (.list (before ++ f.encode a :: after)) =
      some (before.map (Attempt.ofDocument f) ++
        .parsed a :: after.map (Attempt.ofDocument f))
  ofBytes_among : ∀ a before after, Integral (.list (before ++ f.encode a :: after)) →
    Within nestingLimit (.list (before ++ f.encode a :: after)) →
      f.attempt.list.ofBytes (Json.list (before ++ f.encode a :: after)).toBytes =
        .ok (before.map (Attempt.ofDocument f) ++
          .parsed a :: after.map (Attempt.ofDocument f))
  ofBytes_list : ∀ as, f.attempt.list.ofBytes (f.list.encode as).toBytes = .ok (as.map .parsed)
  /-- The outcome for any value is the outcome for what is written for it. -/
  again : ∀ v : Value,
    Attempt.ofDocument f ((Attempt.ofDocument f v.document).document f) =
      Attempt.ofDocument f v.document
  /-- The second outcome for a document in which names may stand twice is the last one. -/
  rests : ∀ v : Json,
    Attempt.ofDocument f (Attempt.normal f (Attempt.normal f v)) =
      Attempt.ofDocument f (Attempt.normal f v)
  ofBytes_again : ∀ v : Value, Integral v.document → Within nestingLimit v.document →
    f.attempt.ofBytes ((Attempt.ofDocument f v.document).document f).toBytes =
      .ok (Attempt.ofDocument f v.document)

/-- Lawful formats settle. -/
theorem Format.Lawful.settles (h : ∀ levels, f.Lawful (levels + 7)) : f.Settles := by
  have whole : f.Lawful nestingLimit := h 120
  have inner : f.Lawful 126 := h 119
  have among (a : α) (before after : List Json) :
      f.attempt.list.decode (.list (before ++ f.encode a :: after)) =
        some (before.map (Attempt.ofDocument f) ++
          .parsed a :: after.map (Attempt.ofDocument f)) := by
    rw [decode_attempts, List.map_append, List.map_cons, whole.ofDocument_encode]
  constructor
  case decode_encode =>
    intro a
    exact ⟨whole.decode_encode a, whole.decode_canonical _ a (whole.decode_encode a)⟩
  case ofBytes_encode =>
    intro a
    exact ⟨whole.ofBytes_encode a, whole.ofBytes_canonical a⟩
  case decode_among => exact among
  case ofBytes_among =>
    intro a before after integral within
    exact (faithful_attempt f).list.ofBytes_toBytes integral within (among a before after)
  case ofBytes_list =>
    intro as
    have parsed : f.attempt.list.decode (f.list.encode as) = some (as.map .parsed) := by
      refine (decode_attempts f _).trans (congrArg some ?_)
      rw [List.map_map]
      exact List.map_congr_left fun a _ => whole.ofDocument_encode a
    exact (faithful_attempt f).list.ofBytes_toBytes (inner.list.integral as) (inner.list.within as)
      parsed
  case again => exact whole.ofDocument_normal
  case rests => exact whole.ofDocument_normal_normal
  case ofBytes_again =>
    intro v integral within
    exact (faithful_attempt f).ofBytes_toBytes (whole.integral_normal integral)
      (whole.within_normal within) (congrArg some (whole.ofDocument_normal v))

end Laws

end Json

/-! ## Configurations -/

namespace Configuration

open Json (Format Attempt Value)

/-- The bytes of all values of a table. -/
def printTable {α : Type} (format : Format α) (table : Table α) : Bytes :=
  (format.list.encode (table.map (·.2))).toBytes

/-- A table that is made of documents is made again of what is printed for it. -/
theorem ofBytes_printTable {α : Type} {format : Format α} (lawful : format.Lawful 126)
    (keyOf : α → String) (entries : List Json) :
    ∃ printed, Json.ofBytes (printTable format (index format keyOf entries)) =
        .ok (.list printed) ∧ index format keyOf printed = index format keyOf entries := by
  have indexes := indexes_index format keyOf entries
  generalize index format keyOf entries = table at indexes ⊢
  have keys : (table.map (·.2)).map (fun a => (keyOf a, a)) = table := by
    rw [List.map_map]
    refine (List.map_congr_left fun entry mem => ?_).trans (List.map_id _)
    obtain ⟨key, a⟩ := entry
    exact congrArg (·, a) ((indexes.mem_iff key a).1 mem).1
  refine ⟨(table.map (·.2)).map format.encode, ?_, ?_⟩
  · exact (lawful.list.integral _).ofBytes_toBytes (lawful.list.within _)
  · rw [index, lawful.decodable_encode, keys, Table.ofList_of_sorted indexes.sorted]

/-- Flags and segments settle, and so do the configurations that are made of them: values and their
normal forms make the same configuration, which is read again from what is printed for it. -/
theorem normal_forms_settle (entries entries' : List Value) :
    Flag.format.Settles ∧ Segment.format.Settles ∧
      ofEntries (entries.map fun v => Attempt.normal Flag.format v.document)
          (entries'.map fun v => Attempt.normal Segment.format v.document) =
        ofEntries (entries.map Value.document) (entries'.map Value.document) ∧
      ∀ flags segments : List Json,
        let c := ofEntries flags segments
        ofBytes (printTable Flag.format c.flags) (printTable Segment.format c.segments) =
          .ok c := by
  refine ⟨Format.Lawful.settles Flag.lawful_format,
    Format.Lawful.settles fun levels => Segment.lawful_format (levels + 3), ?_, ?_⟩
  · rw [ofEntries, ofEntries, (Flag.lawful_format 0).decodable_normal,
      (Segment.lawful_format 0).decodable_normal]
  · intro flags segments c
    obtain ⟨fs, flags_read, flags_same⟩ :=
      ofBytes_printTable (Flag.lawful_format 119) Flag.key flags
    obtain ⟨ss, segments_read, segments_same⟩ :=
      ofBytes_printTable (Segment.lawful_format 122) Segment.identifier segments
    refine (ofBytes_eq_ok_iff _ _ _).2 ⟨fs, ss, flags_read, segments_read, ?_⟩
    exact congrArg₂ Configuration.mk flags_same segments_same

/-- A segment that is named twice is broken, and its value is a segment. -/
example :
    let named : Json := .object [("identifier", .text "a"), ("identifier", .text "b")]
    (Attempt.ofDocument Segment.format named).value? = none ∧
      (Attempt.ofDocument Segment.format (Attempt.normal Segment.format named)).value? =
        some { identifier := "b" } := by
  decide +kernel

end Configuration

end FlagHost

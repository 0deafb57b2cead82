import FlagHost.Proofs.Decoding
import FlagHost.Proofs.Entries
import FlagHost.Proofs.Objects

/-!
# Broken entries cost nothing else

What two documents that list flags and segments are read as. Main statement: whatever their entries
are, both are read, each of the two tables has the last entry of each key that has a value, and
entries that are broken, at any depth and for any reason, change neither of the tables.
-/

namespace FlagHost

open Json (Format Broken)

/-! ## The formats of flags and segments -/

theorem Flag.Kind.explained_format : Flag.Kind.format.Explained := Format.explained_choice _

theorem Flag.State.explained_format : Flag.State.format.Explained := Format.explained_choice _

theorem Variation.explained_format : Variation.format.Explained := by
  refine .map (Format.explained_record _ (by decide) ?_) _ _
  exact ⟨Format.explained_text, Format.explained_text, Format.explained_text.optional, trivial⟩

theorem WeightedVariation.explained_format : WeightedVariation.format.Explained := by
  refine .map (Format.explained_record _ (by decide) ?_) _ _
  exact ⟨Format.explained_text, Format.explained_uint32, trivial⟩

theorem Distribution.explained_format : Distribution.format.Explained := by
  refine .map (Format.explained_record _ (by decide) ?_) _ _
  exact ⟨Format.explained_text, WeightedVariation.explained_format.list, trivial⟩

theorem Serve.explained_format : Serve.format.Explained := by
  refine .map (Format.explained_record _ (by decide) ?_) _ _
  exact ⟨Format.explained_text.optional, Distribution.explained_format.optional, trivial⟩

theorem Clause.explained_format : Clause.format.Explained := by
  refine .map (Format.explained_record _ (by decide) ?_) _ _
  exact ⟨Format.explained_text, Format.explained_text, Format.explained_text.list,
    Format.explained_boolean, trivial⟩

theorem Rule.explained_format : Rule.format.Explained := by
  refine .map (Format.explained_record _ (by decide) ?_) _ _
  exact ⟨Format.explained_text.optional, Format.explained_int32, Clause.explained_format.list,
    Serve.explained_format, trivial⟩

theorem ListedTarget.explained_format : ListedTarget.format.Explained := by
  refine .map (Format.explained_record _ (by decide) ?_) _ _
  exact ⟨Format.explained_text, Format.explained_text.optional, trivial⟩

theorem TargetMap.explained_format : TargetMap.format.Explained := by
  refine .map (Format.explained_record _ (by decide) ?_) _ _
  exact ⟨Format.explained_text, ListedTarget.explained_format.list, Format.explained_text.list,
    trivial⟩

theorem Prerequisite.explained_format : Prerequisite.format.Explained := by
  refine .map (Format.explained_record _ (by decide) ?_) _ _
  exact ⟨Format.explained_text, Format.explained_text.list, trivial⟩

theorem Flag.explained_format : Flag.format.Explained := by
  refine .map (Format.explained_record _ (by decide) ?_) _ _
  exact ⟨Format.explained_text, Flag.Kind.explained_format, Flag.State.explained_format,
    Variation.explained_format.list, Format.explained_text, Serve.explained_format,
    Rule.explained_format.list, TargetMap.explained_format.list, Prerequisite.explained_format.list,
    Format.explained_int64, trivial⟩

theorem Segment.explained_format : Segment.format.Explained := by
  refine .map (Format.explained_record _ (by decide) ?_) _ _
  exact ⟨Format.explained_text, Format.explained_text.optional, ListedTarget.explained_format.list,
    ListedTarget.explained_format.list, Clause.explained_format.list, Format.explained_int64,
    trivial⟩

/-! ## Lists of entries -/

namespace Json

theorem Number.toJson_ne_list (n : Number) (vs : List Json) : n.toJson ≠ .list vs := by
  cases n <;> exact fun same => nomatch same

/-- Nothing but a list begins with the bracket of a list. -/
theorem readValue_ne_list {items levels : Nat} {s : Bytes} {b : UInt8} {bytes : Bytes}
    (first : skipBlanks bytes = b :: s) (other : b ≠ 91) (vs : List Json) (rest : Bytes) :
    readValue items levels bytes ≠ .ok (.list vs, rest) := by
  intro h
  unfold readValue at h
  rw [first] at h
  dsimp only at h
  split at h
  · obtain ⟨_, -, same⟩ := map_eq_ok_iff.1 h
    exact nomatch same
  · obtain ⟨_, -, same⟩ := map_eq_ok_iff.1 h
    exact nomatch same
  · obtain ⟨_, -, same⟩ := map_eq_ok_iff.1 h
    exact nomatch same
  · obtain ⟨_, -, same⟩ := map_eq_ok_iff.1 h
    exact Number.toJson_ne_list _ vs (congrArg Prod.fst same)
  · obtain ⟨_, -, same⟩ := map_eq_ok_iff.1 h
    exact nomatch same
  · next opened => exact other (UInt8.toNat.inj (toNat_eq_of_char_eq opened))
  · split at h
    · exact nomatch h
    · obtain ⟨_, -, h⟩ := bind_eq_ok_iff.1 h
      obtain ⟨_, -, h⟩ := bind_eq_ok_iff.1 h
      exact nomatch h
  · split at h
    · obtain ⟨_, -, same⟩ := map_eq_ok_iff.1 h
      exact Number.toJson_ne_list _ vs (congrArg Prod.fst same)
    · exact nomatch h

/-- A document is read as a list exactly if its items are read as documents. -/
theorem readValue_eq_list_iff (bounds : Bounds) (bytes rest : Bytes) (vs : List Json) :
    readValue bounds.items bounds.levels bytes = .ok (.list vs, rest) ↔
      Format.document.list.read bounds bytes = .ok (vs, rest) := by
  obtain ⟨levels, items⟩ := bounds
  unfold Format.list
  dsimp only
  cases first : skipBlanks bytes with
  | nil =>
    rw [readValue, first]
    exact iff_of_false (fun h => nomatch h) fun h => nomatch h
  | cons b s =>
    dsimp only
    by_cases opens : b = 91
    · subst opens
      rw [readValue, first, if_pos rfl]
      cases levels with
      | zero => exact iff_of_false (fun h => nomatch h) fun h => nomatch h
      | succ levels =>
        refine bind_eq_ok_iff.trans (.trans ?_ bind_eq_ok_iff.symm)
        refine exists_congr fun found => and_congr_right fun _ => ?_
        refine bind_eq_ok_iff.trans (.trans ?_ bind_eq_ok_iff.symm)
        refine exists_congr fun rest => and_congr_right fun _ => ?_
        simp [pure, Except.pure]
    · rw [if_neg opens]
      exact iff_of_false (readValue_ne_list first opens vs rest) fun h => nomatch h

/-- Entries are read from the documents that are lists. -/
theorem entries_ofBytes_iff (bytes : Bytes) (vs : List Json) :
    Configuration.entries.ofBytes bytes = .ok vs ↔ ofBytes bytes = .ok (.list vs) := by
  rw [Configuration.entries, Format.ofBytes, mapError_eq_ok_iff, ofBytes, readAll_eq_ok_iff,
    readAll_eq_ok_iff]
  refine exists_congr fun rest => and_congr_left fun _ => ?_
  exact (readValue_eq_list_iff ⟨nestingLimit, bytes.length + 1⟩ bytes rest vs).symm

end Json

/-! ## Configurations -/

namespace Configuration

theorem ofBytes_eq_ok_iff (flags segments : Bytes) (c : Configuration) :
    ofBytes flags segments = .ok c ↔
      ∃ fs ss, Json.ofBytes flags = .ok (.list fs) ∧ Json.ofBytes segments = .ok (.list ss) ∧
        ofEntries fs ss = c := by
  unfold ofBytes
  rw [bind_eq_ok_iff]
  refine exists_congr fun fs => ?_
  rw [bind_eq_ok_iff, Json.entries_ofBytes_iff, ← exists_and_left]
  refine exists_congr fun ss => and_congr_right fun _ => ?_
  rw [Json.entries_ofBytes_iff]
  exact and_congr_right fun _ => ⟨Except.ok.inj, congrArg Except.ok⟩

/-- What is known of a configuration that was read from lists of flags and segments. -/
structure Isolated (c : Configuration) (fs ss : List Json) : Prop where
  flags : Indexes Flag.format Flag.key fs c.flags
  segments : Indexes Segment.format Segment.identifier ss c.segments
  /-- Broken flags may come and go, and the segments may be any. -/
  flags_eq : ∀ flags' segments' fs' ss', Json.ofBytes flags' = .ok (.list fs') →
    Json.ofBytes segments' = .ok (.list ss') → SameBut (Broken Flag.format) fs fs' →
      ∃ c', ofBytes flags' segments' = .ok c' ∧ c'.flags = c.flags
  /-- Broken segments may come and go, and the flags may be any. -/
  segments_eq : ∀ flags' segments' fs' ss', Json.ofBytes flags' = .ok (.list fs') →
    Json.ofBytes segments' = .ok (.list ss') → SameBut (Broken Segment.format) ss ss' →
      ∃ c', ofBytes flags' segments' = .ok c' ∧ c'.segments = c.segments
  /-- The entries that are broken are all that have no value. -/
  flag_decode_eq_none_iff : ∀ v, Flag.format.decode v = none ↔ Broken Flag.format v
  segment_decode_eq_none_iff : ∀ v, Segment.format.decode v = none ↔ Broken Segment.format v

/-- Any two lists of documents are read as a configuration, and what is broken in them costs nothing
else. -/
theorem isolated_of_lists {flags segments : Bytes} {fs ss : List Json}
    (flags_read : Json.ofBytes flags = .ok (.list fs))
    (segments_read : Json.ofBytes segments = .ok (.list ss)) :
    ∃ c, ofBytes flags segments = .ok c ∧ c.Isolated fs ss := by
  refine ⟨_, (ofBytes_eq_ok_iff flags segments _).2 ⟨fs, ss, flags_read, segments_read, rfl⟩, ?_⟩
  have flag_broken := Flag.explained_format.decode_eq_none_iff
  have segment_broken := Segment.explained_format.decode_eq_none_iff
  constructor
  case flags => exact indexes_index Flag.format Flag.key fs
  case segments => exact indexes_index Segment.format Segment.identifier ss
  case flags_eq =>
    intro flags' segments' fs' ss' flags_read' segments_read' same
    refine ⟨_, (ofBytes_eq_ok_iff flags' segments' _).2
      ⟨fs', ss', flags_read', segments_read', rfl⟩, ?_⟩
    exact (index_congr same fun v => (flag_broken v).2).symm
  case segments_eq =>
    intro flags' segments' fs' ss' flags_read' segments_read' same
    refine ⟨_, (ofBytes_eq_ok_iff flags' segments' _).2
      ⟨fs', ss', flags_read', segments_read', rfl⟩, ?_⟩
    exact (index_congr same fun v => (segment_broken v).2).symm
  case flag_decode_eq_none_iff => exact flag_broken
  case segment_decode_eq_none_iff => exact segment_broken

/-- A flag, written as a list of its fields, and a number. -/
def flagAndNumber : Bytes := Utf8.ofText "[[\"a\",\"int\",\"on\",[],\"x\",[]],7]"

theorem flagAndNumber_eq :
    flagAndNumber =
      [91, 91, 34, 97, 34, 44, 34, 105, 110, 116, 34, 44, 34, 111, 110, 34, 44, 91, 93, 44, 34, 120,
        34, 44, 91, 93, 93, 44, 55, 93] := by
  decide +kernel

theorem isolated_of_lists_flagAndNumber :
    ∃ c, ofBytes flagAndNumber (Utf8.ofText "[null]") = .ok c ∧
      c.Isolated
        [.list [.text "a", .text "int", .text "on", .list [], .text "x", .list []], .integer 7]
        [.null] := by
  have flags_read : Json.ofBytes flagAndNumber =
      .ok (.list [.list [.text "a", .text "int", .text "on", .list [], .text "x", .list []],
        .integer 7]) := by
    rw [flagAndNumber_eq]
    rfl
  have segments_read : Json.ofBytes (Utf8.ofText "[null]") = .ok (.list [.null]) := by rfl
  exact isolated_of_lists flags_read segments_read

end Configuration

end FlagHost

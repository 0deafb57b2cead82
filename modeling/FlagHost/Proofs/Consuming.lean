import FlagHost.Proofs.Escapes
import FlagHost.Proofs.Reading
import FlagHost.Proofs.Tokens

/-!
# What is read of a value

A reader may refuse a value that is written correctly, since it is not what was expected. Main
statement: if a format accepts a written value, it reads the whole value and nothing behind it. A
record is then read only from an object that has each of its fields once, or from a list.
-/

namespace FlagHost.Json

/-! ## Texts -/

/-- A text ends at its own quote, if it can be read. -/
theorem readText_textBody {s : Bytes} (body : TextBody s) {rest rest' : Bytes} {t : String}
    (read : readText (s ++ 34 :: rest) = .ok (t, rest')) : Spells t.toList s ∧ rest' = rest := by
  obtain ⟨text, spells, same⟩ := (readText_eq_ok_iff _ _ _).1 read
  have skipped := skipText_of_textBody body rest
  rw [same, skipText_of_textBody spells.textBody] at skipped
  obtain rfl := Except.ok.inj skipped
  rw [List.append_cancel_right same]
  exact ⟨spells, rfl⟩

/-! ## Values -/

/-- A value is a text, a list or an object, or it begins like none of them. -/
theorem Written.shape {v : Bytes} (h : Written .value v) :
    (∃ s, v = 34 :: s ++ [34] ∧ TextBody s) ∨
      (∃ frame s, v = Frame.opening frame :: s ∧ Written (.rest frame true) s) ∨
      ∃ b s, v = b :: s ∧ isBlankByte b = false ∧ b ≠ 34 ∧ b ≠ 91 ∧ b ≠ 123 := by
  have digit {b : UInt8} (digit : isDigit b) :
      isBlankByte b = false ∧ b ≠ 34 ∧ b ≠ 91 ∧ b ≠ 123 := by
    refine ⟨isBlankByte_of_isDigit digit, ?_, ?_, ?_⟩ <;> (rintro rfl; exact nomatch digit)
  cases h with
  | word known =>
    simp only [List.mem_cons, List.not_mem_nil, or_false] at known
    rcases known with rfl | rfl | rfl
    · exact .inr (.inr ⟨110, _, rfl, by decide⟩)
    · exact .inr (.inr ⟨116, _, rfl, by decide⟩)
    · exact .inr (.inr ⟨102, _, rfl, by decide⟩)
  | number is_sign is_whole =>
    rcases is_sign with rfl | rfl
    · cases is_whole with
      | zero => exact .inr (.inr ⟨48, _, rfl, by decide⟩)
      | digits first => exact .inr (.inr ⟨_, _, rfl, digit first⟩)
    · exact .inr (.inr ⟨45, _, rfl, by decide⟩)
  | text body => exact .inl ⟨_, rfl, body⟩
  | opened rest => exact .inr (.inl ⟨_, _, rfl, rest⟩)

theorem Written.inside_object {s : Bytes} (h : Written .value (123 :: s)) :
    Written (.rest .object true) s := by
  rcases h.shape with ⟨_, same, -⟩ | ⟨frame, _, same, written⟩ | ⟨_, _, same, -, -, -, no_object⟩
  · exact absurd (List.cons.inj same).1 (by decide)
  · cases frame with
    | list => exact absurd (List.cons.inj same).1 (by decide)
    | object =>
      rw [(List.cons.inj same).2]
      exact written
  · exact absurd (List.cons.inj same).1.symm no_object

/-! ## Formats -/

/-- What the format accepts of written values it reads whole. -/
def Format.Consumes {α : Type} (f : Format α) : Prop :=
  ∀ bounds v blanks rest a rest', Written .value v → v.length ≤ bounds.items → Blank blanks →
    Ended rest → f.read bounds (blanks ++ (v ++ rest)) = .ok (a, rest') → rest' = rest

/-- The format gives something for the value, and leaves what stands behind it. -/
def Format.Accepts {α : Type} (f : Format α) (bounds : Bounds) (v : Bytes) : Prop :=
  ∃ blanks behind a, Blank blanks ∧ f.read bounds (blanks ++ (v ++ behind)) = .ok (a, behind)

/-- Only texts are accepted as texts, and they are read whole. -/
theorem Format.text_of_read {bounds : Bounds} {v blanks rest rest' : Bytes} {t : String}
    (value : Written .value v) (blank : Blank blanks)
    (read : Format.text.read bounds (blanks ++ (v ++ rest)) = .ok (t, rest')) :
    v.head? = some 34 ∧ rest' = rest := by
  rw [Format.text] at read
  dsimp only at read
  rcases value.shape with ⟨s, rfl, body⟩ | ⟨frame, s, rfl, -⟩ | ⟨b, s, rfl, no_blank, no_quote, -⟩
  · rw [List.append_assoc, List.cons_append, blank.skipBlanks_cons rfl] at read
    exact ⟨rfl, (readText_textBody body read).2⟩
  · rw [List.cons_append, blank.skipBlanks_cons (by cases frame <;> rfl)] at read
    cases frame <;> cases read
  · rw [List.cons_append, blank.skipBlanks_cons no_blank] at read
    dsimp only at read
    rw [if_neg no_quote] at read
    cases read

theorem Format.Accepts.head?_eq {bounds : Bounds} {v : Bytes} (h : Format.text.Accepts bounds v)
    (value : Written .value v) : v.head? = some 34 := by
  obtain ⟨blanks, behind, t, blank, read⟩ := h
  exact (text_of_read value blank read).1

theorem Format.consumes_text : Format.text.Consumes :=
  fun _ _ _ _ _ _ value _ blank _ read => (text_of_read value blank read).2

/-! ## Members -/

/-- The name comes once, with a text. -/
def OneText (name : String) (members : List (String × Bytes)) : Prop :=
  ∃ v, bytesNamed name members = [v] ∧ v.head? = some 34

theorem OneText.length_eq {name : String} {members : List (String × Bytes)}
    (h : OneText name members) : (bytesNamed name members).length = 1 := by
  obtain ⟨v, only, -⟩ := h
  rw [only]
  rfl

theorem OneText.head?_eq {name : String} {members : List (String × Bytes)}
    (h : OneText name members) {v : Bytes} (mem : (name, v) ∈ members) : v.head? = some 34 := by
  obtain ⟨w, only, text⟩ := h
  rwa [eq_of_bytesNamed only mem]

theorem exists_of_readText_map {s rest : Bytes} (body : TextBody s)
    {found : Option (String × Bytes)}
    (read : (readText (s ++ 34 :: rest)).map some = .ok found) :
    ∃ name : String, Spells name.toList s ∧ found = some (name, rest) := by
  obtain ⟨⟨name, rest'⟩, text, rfl⟩ := map_eq_ok_iff.1 read
  obtain ⟨spells, rfl⟩ := readText_textBody body text
  exact ⟨name, spells, rfl⟩

/-- The name in front of a member is read whole, if it can be read. -/
theorem nextName?_of_separates {first : Bool} {separator before text : Bytes}
    (separates : Separates first separator) (before_blank : Blank before) (body : TextBody text)
    {rest : Bytes} {found : Option (String × Bytes)}
    (read : nextName? first (separator ++ (before ++ 34 :: (text ++ 34 :: rest))) = .ok found) :
    ∃ name : String, Spells name.toList text ∧ found = some (name, rest) := by
  cases separates with
  | first =>
    rw [List.nil_append, nextName?, before_blank.skipBlanks_cons rfl] at read
    exact exists_of_readText_map body read
  | comma comma_blank =>
    rw [List.append_assoc, List.singleton_append, nextName?, comma_blank.skipBlanks_cons rfl]
      at read
    dsimp only at read
    rw [if_neg (by decide), if_neg (by decide), if_pos rfl, before_blank.skipBlanks_cons rfl]
      at read
    exact exists_of_readText_map body read

namespace Fields

variable {α : Type} {αs : List Type}

/-- All fields read the values that they accept whole. -/
def Consume : {αs : List Type} → Fields αs → Prop
  | _, nil => True
  | _, cons field rest => field.format.Consumes ∧ rest.Consume

/-- The field of the name accepts the value. -/
def Accepts (bounds : Bounds) (name : String) (v : Bytes) : {αs : List Type} → Fields αs → Prop
  | _, nil => False
  | _, cons field rest =>
    if field.name = name then field.format.Accepts bounds v else rest.Accepts bounds name v

/-- What reading a member makes of the slots: nothing if no field has its name, or else the slot of
that field is filled, which was free. -/
inductive Takes (fields : Fields αs) (bounds : Bounds) (slots : Slots αs) (name : String)
    (v : Bytes) : Slots αs → Prop where
  | passed (unknown : fields.met? name slots = none) : Takes fields bounds slots name v slots
  | filled {slots' : Slots αs} (free : fields.met? name slots = some false)
      (accepts : fields.Accepts bounds name v) (filled : fields.met? name slots' = some true)
      (kept : ∀ other, other ≠ name → fields.met? other slots' = fields.met? other slots) :
      Takes fields bounds slots name v slots'

theorem readSlot_of_consume {fields : Fields αs} (consume : fields.Consume) {bounds : Bounds}
    {name : String} {slots slots' : Slots αs} {v blanks rest rest' : Bytes}
    (value : Written .value v) (short : v.length ≤ bounds.items) (blank : Blank blanks)
    (ended : Ended rest) (known : fields.met? name slots ≠ none)
    (read : fields.readSlot bounds name slots (blanks ++ (v ++ rest)) = .ok (slots', rest')) :
    rest' = rest ∧ fields.Accepts bounds name v ∧ fields.met? name slots' = some true ∧
      ∀ other, other ≠ name → fields.met? other slots' = fields.met? other slots := by
  induction fields with
  | nil => exact absurd rfl known
  | cons field fields ih =>
    obtain ⟨slot, slots⟩ := slots
    have reads := readSlot_cons bounds name field fields slot slots (blanks ++ (v ++ rest))
    rw [Slots.cons] at reads
    rw [reads] at read
    by_cases own : field.name = name
    · rw [if_pos own] at read
      obtain ⟨⟨a, behind⟩, found, same⟩ := map_eq_ok_iff.1 read
      cases same
      obtain rfl := consume.1 _ _ _ _ _ _ value short blank ended found
      refine ⟨rfl, (if_pos own).mpr ⟨blanks, _, a, blank, found⟩, if_pos own, ?_⟩
      intro other different
      have apart : field.name ≠ other := fun same => different (same.symm.trans own)
      exact (if_neg apart).trans (if_neg apart).symm
    · rw [if_neg own] at read
      obtain ⟨⟨slots'', behind⟩, found, same⟩ := map_eq_ok_iff.1 read
      cases same
      have rest_known : fields.met? name slots ≠ none := fun unknown =>
        known ((if_neg own).trans unknown)
      obtain ⟨rfl, accepts, filled, kept⟩ := ih consume.2 rest_known found
      refine ⟨rfl, (if_neg own).mpr accepts, (if_neg own).trans filled, fun other different => ?_⟩
      by_cases here : field.name = other
      · exact (if_pos here).trans (if_pos here).symm
      · exact (if_neg here).trans ((kept other different).trans (if_neg here).symm)

/-- A member is read whole, if it can be read. -/
theorem takes_of_readMember {fields : Fields αs} (consume : fields.Consume) {bounds : Bounds}
    {name : String} {slots slots' : Slots αs} {v after blanks rest rest' : Bytes}
    (value : Written .value v) (short : v.length ≤ bounds.items) (after_blank : Blank after)
    (blank : Blank blanks) (ended : Ended rest)
    (read : fields.readMember bounds slots name (after ++ 58 :: (blanks ++ (v ++ rest))) =
      .ok (slots', rest')) :
    rest' = rest ∧ fields.Takes bounds slots name v slots' := by
  have colon := passColon_append after_blank (blanks ++ (v ++ rest))
  unfold readMember at read
  cases met : fields.met? name slots with
  | none =>
    have skipped := skipValue_of_written value blank ended short
    simp only [met, colon, ok_bind, skipped] at read
    cases read
    exact ⟨rfl, .passed met⟩
  | some done =>
    cases done with
    | true =>
      simp only [met] at read
      split at read <;> exact nomatch read
    | false =>
      simp only [met, colon, ok_bind] at read
      obtain ⟨rfl, accepts, filled, kept⟩ :=
        readSlot_of_consume consume value short blank ended (by simp [met]) read
      exact ⟨rfl, .filled met accepts filled kept⟩

theorem readObject_closed {fields : Fields αs} {bounds : Bounds} {more : Nat} {first : Bool}
    {slots : Slots αs} {blanks : Bytes} (blank : Blank blanks) {rest rest' : Bytes} {as : Values αs}
    (read : fields.readObject bounds more first slots (blanks ++ 125 :: rest) = .ok (as, rest')) :
    rest' = rest ∧ fields.complete slots = .ok as := by
  have at_end := nextName?_closed first blank rest
  have passed := endObject_append blank rest
  cases more with
  | zero => cases read
  | succ more =>
    simp only [readObject, at_end, ok_bind, passed] at read
    cases completed : fields.complete slots with
    | error name =>
      rw [completed] at read
      cases read
    | ok as' =>
      rw [completed] at read
      cases read
      exact ⟨rfl, rfl⟩

theorem exists_of_readObject {fields : Fields αs} {bounds : Bounds} {more : Nat} {first : Bool}
    {slots : Slots αs} {s rest : Bytes} {as : Values αs}
    (read : fields.readObject bounds more first slots s = .ok (as, rest)) :
    ∃ found, nextName? first s = .ok found ∧ ∀ name behind, found = some (name, behind) →
      ∃ fewer slots' s', fields.readMember bounds slots name behind = .ok (slots', s') ∧
        fields.readObject bounds fewer false slots' s' = .ok (as, rest) := by
  cases more with
  | zero => exact nomatch read
  | succ more =>
    rw [readObject] at read
    obtain ⟨found, next, read⟩ := bind_eq_ok_iff.1 read
    refine ⟨found, next, ?_⟩
    rintro name behind rfl
    obtain ⟨⟨slots', s'⟩, member, read⟩ := bind_eq_ok_iff.1 read
    exact ⟨more, slots', s', member, read⟩

/-- What is left of an object is read whole, if it can be read, and all its names are texts. -/
theorem readObject_of_consume {fields : Fields αs} (consume : fields.Consume) {bounds : Bounds}
    {s : Bytes} {first : Bool} (written : Written (.rest .object first) s)
    (short : s.length ≤ bounds.items) {more : Nat} {slots : Slots αs} {rest rest' : Bytes}
    {as : Values αs}
    (read : fields.readObject bounds more first slots (s ++ rest) = .ok (as, rest')) :
    rest' = rest ∧ ∃ members, Members first members s := by
  generalize shape : Part.rest .object first = part at written
  induction written generalizing first more slots with
  | word => cases shape
  | number => cases shape
  | text => cases shape
  | opened => cases shape
  | @closed frame first blanks blank =>
    cases shape
    rw [List.append_assoc, List.singleton_append] at read
    exact ⟨(readObject_closed blank read).1, [], .closed _ blank⟩
  | @item frame first separator name blanks v s separates named blank value written _ ih =>
    cases shape
    cases named with
    | @object before text after before_blank body after_blank =>
      -- The name need not be a text, but then the reader stops here.
      obtain ⟨ended, steps, some_byte, -⟩ := written.passes
      have goes_on := ended.append (List.length_pos_iff.1 (Nat.zero_lt_of_lt some_byte)) rest
      simp only [List.length_append] at short
      simp only [List.append_assoc, List.cons_append, List.nil_append] at read
      obtain ⟨found, next, read⟩ := exists_of_readObject read
      obtain ⟨name, spells, rfl⟩ := nextName?_of_separates separates before_blank body next
      obtain ⟨fewer, slots', s', member, read⟩ := read name _ rfl
      obtain ⟨rfl, -⟩ :=
        takes_of_readMember consume value (by omega) after_blank blank goes_on member
      obtain ⟨same, members, rest_members⟩ := ih (by omega) read rfl
      have all := Members.member (v := v) separates before_blank spells after_blank blank
        rest_members
      refine ⟨same, (name, v) :: members, ?_⟩
      simpa using all

/-- What comes of a slot behind the members: it stays as it is, or it was free and is filled by the
only member of its name. -/
structure Collects (fields : Fields αs) (bounds : Bounds) (members : List (String × Bytes))
    (slots slots' : Slots αs) (name : String) : Prop where
  full : fields.met? name slots = some true →
    bytesNamed name members = [] ∧ fields.met? name slots' = some true
  free : fields.met? name slots = some false →
    fields.met? name slots' = some false ∨
      ∃ v, bytesNamed name members = [v] ∧ fields.Accepts bounds name v

theorem Takes.collects {fields : Fields αs} {bounds : Bounds} {members : List (String × Bytes)}
    {slots slots' slots'' : Slots αs} {name : String} {v : Bytes}
    (takes : fields.Takes bounds slots name v slots') (other : String)
    (behind : fields.Collects bounds members slots' slots'' other) :
    fields.Collects bounds ((name, v) :: members) slots slots'' other := by
  by_cases same : name = other
  · subst same
    cases takes with
    | passed unknown =>
      have no_slot {done : Bool} : fields.met? name slots ≠ some done := by simp [unknown]
      exact ⟨fun full => absurd full no_slot, fun free => absurd free no_slot⟩
    | filled free accepts filled _ =>
      refine ⟨fun full => (nomatch free.symm.trans full), fun _ => .inr ⟨v, ?_, accepts⟩⟩
      rw [bytesNamed_cons, if_pos rfl, (behind.full filled).1]
  · have kept : fields.met? other slots' = fields.met? other slots := by
      cases takes with
      | passed => rfl
      | filled _ _ _ kept => exact kept other (Ne.symm same)
    have named : bytesNamed other ((name, v) :: members) = bytesNamed other members := by
      rw [bytesNamed_cons, if_neg same]
    refine ⟨?_, ?_⟩
    · rw [← kept, named]
      exact behind.full
    · rw [← kept, named]
      exact behind.free

/-- From an object whose members are known each slot is filled by the only member of its name. -/
theorem collects_of_readObject {fields : Fields αs} (consume : fields.Consume) {bounds : Bounds}
    {members : List (String × Bytes)} {s : Bytes} {first : Bool}
    (written : Members first members s) (values : ∀ member ∈ members, Written .value member.2)
    (short : ∀ member ∈ members, member.2.length ≤ bounds.items) {more : Nat} {slots : Slots αs}
    {rest rest' : Bytes} {as : Values αs}
    (read : fields.readObject bounds more first slots (s ++ rest) = .ok (as, rest')) :
    rest' = rest ∧ ∃ slots', fields.complete slots' = .ok as ∧
      ∀ name, fields.Collects bounds members slots slots' name := by
  induction written generalizing more slots with
  | @closed first blanks blank =>
    rw [List.append_assoc, List.singleton_append] at read
    obtain ⟨same, completed⟩ := readObject_closed blank read
    exact ⟨same, slots, completed, fun name => ⟨fun met => ⟨rfl, met⟩, .inl⟩⟩
  | @member first separator before text after blanks v s name members separates before_blank spells
      after_blank blank written ih =>
    obtain ⟨value, values⟩ := List.forall_mem_cons.1 values
    obtain ⟨short_value, short⟩ := List.forall_mem_cons.1 short
    have goes_on := written.ended.append written.some_byte rest
    have known := nextName?_append separates before_blank spells
      (after ++ 58 :: (blanks ++ (v ++ (s ++ rest))))
    simp only [List.append_assoc, List.cons_append, List.nil_append] at read
    obtain ⟨found, next, read⟩ := exists_of_readObject read
    obtain rfl := Except.ok.inj (known.symm.trans next)
    obtain ⟨fewer, slots', s', member, read⟩ := read name _ rfl
    obtain ⟨rfl, takes⟩ :=
      takes_of_readMember consume value short_value after_blank blank goes_on member
    obtain ⟨same, slots'', completed, collects⟩ := ih values short read
    exact ⟨same, slots'', completed, fun other => takes.collects other (collects other)⟩

/-- The field of the name has no value to stand for it. -/
def Requires (name : String) : {αs : List Type} → Fields αs → Prop
  | _, nil => False
  | _, cons field rest =>
    if field.name = name then field.absent = none else rest.Requires name

theorem Requires.met?_unmet {fields : Fields αs} {name : String} (h : fields.Requires name) :
    fields.met? name fields.unmet = some false := by
  induction fields with
  | nil => exact h.elim
  | cons field rest ih =>
    by_cases own : field.name = name
    · exact if_pos own
    · exact (if_neg own).trans (ih ((if_neg own).mp h))

theorem Requires.met?_ne {fields : Fields αs} {name : String} (h : fields.Requires name)
    {slots : Slots αs} {as : Values αs} (completed : fields.complete slots = .ok as) :
    fields.met? name slots ≠ some false := by
  induction fields with
  | nil => exact h.elim
  | cons field rest ih =>
    obtain ⟨slot, slots⟩ := slots
    rw [complete] at completed
    split at completed
    · next found =>
      by_cases own : field.name = name
      · have required : field.absent = none := (if_pos own).mp h
        intro free
        cases slot with
        | none => cases required.symm.trans found
        | some a => cases (if_pos own).symm.trans free
      · obtain ⟨_, behind, -⟩ := map_eq_ok_iff.1 completed
        exact fun free => ih ((if_neg own).mp h) behind ((if_neg own).symm.trans free)
    · cases completed

/-- The field of the name is required, and it is a text. -/
structure WantsText (fields : Fields αs) (name : String) : Prop where
  requires : fields.Requires name
  accepts : ∀ bounds v, fields.Accepts bounds name v → Format.text.Accepts bounds v

/-- Every field that is required comes once, and its value is accepted. -/
theorem Requires.exists_accepts {fields : Fields αs} {name : String} (h : fields.Requires name)
    {bounds : Bounds} {members : List (String × Bytes)} {slots : Slots αs} {as : Values αs}
    (completed : fields.complete slots = .ok as)
    (collects : fields.Collects bounds members fields.unmet slots name) :
    ∃ v, bytesNamed name members = [v] ∧ fields.Accepts bounds name v :=
  (collects.free h.met?_unmet).resolve_left (h.met?_ne completed)

end Fields

/-! ## Items -/

theorem nextItem?_value {first : Bool} {separator blanks v : Bytes}
    (separates : Separates first separator) (blank : Blank blanks) (value : Written .value v)
    (rest : Bytes) :
    nextItem? first (separator ++ (blanks ++ (v ++ rest))) = .ok (some (v ++ rest)) := by
  obtain ⟨b, s, rfl, no_blank, no_end⟩ := value.first_byte
  cases separates with
  | first =>
    rw [List.nil_append, List.cons_append, nextItem?, blank.skipBlanks_cons no_blank]
    simp [no_end]
  | comma comma_blank =>
    rw [List.append_assoc, List.singleton_append, List.cons_append, nextItem?,
      comma_blank.skipBlanks_cons rfl]
    simp [blank.skipBlanks_cons no_blank, no_end]

/-- The end of a list is passed only where it is. -/
theorem eq_of_endList {first : Bool} {s rest rest' : Bytes}
    (written : Written (.rest .list first) s) (passed : endList (s ++ rest) = .ok rest') :
    rest' = rest := by
  cases written with
  | closed _ _ blank =>
    rw [List.append_assoc, List.singleton_append, endList, blank.skipBlanks_cons rfl] at passed
    exact (Except.ok.inj passed).symm
  | item separates named blank value =>
    cases named
    obtain ⟨b, s, rfl, no_blank, no_end⟩ := value.first_byte
    simp only [List.append_assoc, List.cons_append, List.append_nil] at passed
    cases separates with
    | first =>
      rw [List.nil_append, endList, blank.skipBlanks_cons no_blank] at passed
      dsimp only at passed
      rw [if_neg no_end] at passed
      split at passed
      · split at passed <;> exact nomatch passed
      · exact nomatch passed
    | comma comma_blank =>
      rw [List.append_assoc, List.singleton_append, endList, comma_blank.skipBlanks_cons rfl]
        at passed
      dsimp only at passed
      rw [if_neg (by decide), if_pos rfl, blank.skipBlanks_cons no_blank] at passed
      exact nomatch passed

/-- The items of a list are read whole, if they can be read. -/
theorem Fields.readList_of_consume {αs : List Type} {fields : Fields αs} (consume : fields.Consume)
    {expected : String} {bounds : Bounds} {n : Nat} {s : Bytes}
    (written : Written (.rest .list (n == 0)) s) (short : s.length ≤ bounds.items)
    {rest rest' : Bytes} {as : Values αs}
    (read : fields.readList expected bounds n (s ++ rest) = .ok (as, rest')) : rest' = rest := by
  induction fields generalizing n s with
  | nil =>
    rw [readList] at read
    obtain ⟨behind, passed, same⟩ := bind_eq_ok_iff.1 read
    cases same
    exact eq_of_endList written passed
  | cons field fields ih =>
    rw [readList] at read
    obtain ⟨found, next, read⟩ := bind_eq_ok_iff.1 read
    cases written with
    | @closed _ _ blanks blank =>
      have at_end : nextItem? (n == 0) (blanks ++ [93] ++ rest) = .ok none := by
        rw [List.append_assoc, List.singleton_append, nextItem?, blank.skipBlanks_cons rfl]
        rfl
      obtain rfl := Except.ok.inj (at_end.symm.trans next)
      dsimp only at read
      split at read
      · obtain ⟨⟨as', behind⟩, list, same⟩ := bind_eq_ok_iff.1 read
        cases same
        exact ih consume.2 (.closed .list _ blank) short list
      · cases read
    | @item _ _ separator name blanks v s separates named blank value behind =>
      cases named
      obtain ⟨ended, steps, some_byte, -⟩ := behind.passes
      have goes_on := ended.append (List.length_pos_iff.1 (Nat.zero_lt_of_lt some_byte)) rest
      have in_front := nextItem?_value separates blank value (s ++ rest)
      simp only [List.length_append, List.append_assoc, List.append_nil] at short next
      obtain rfl := Except.ok.inj (in_front.symm.trans next)
      dsimp only at read
      obtain ⟨⟨a, s'⟩, item, read⟩ := bind_eq_ok_iff.1 read
      obtain ⟨⟨as', s''⟩, list, same⟩ := bind_eq_ok_iff.1 read
      cases same
      obtain rfl := consume.1 bounds v [] _ a s' value (by omega) Blank.nil goes_on item
      exact ih (n := n + 1) consume.2 behind (by omega) list

/-! ## Records -/

section Records

variable {αs : List Type} {fields : Fields αs} {bounds : Bounds} {blanks rest rest' : Bytes}
variable {as : Values αs}

theorem Format.exists_of_read_object (name : String) (blank : Blank blanks) {s : Bytes}
    (read : (Format.record name fields).read bounds (blanks ++ 123 :: s) = .ok (as, rest)) :
    ∃ levels, fields.readObject ⟨levels, bounds.items⟩ bounds.items true fields.unmet s =
      .ok (as, rest) := by
  rw [Format.record] at read
  dsimp only at read
  rw [blank.skipBlanks_cons rfl] at read
  dsimp only at read
  rw [if_pos (.inl rfl)] at read
  split at read
  · cases read
  · next levels _ =>
    rw [if_pos rfl] at read
    exact ⟨levels, read⟩

theorem Format.exists_of_read_list (name : String) (blank : Blank blanks) {s : Bytes}
    (read : (Format.record name fields).read bounds (blanks ++ 91 :: s) = .ok (as, rest)) :
    ∃ expected levels, fields.readList expected ⟨levels, bounds.items⟩ 0 s = .ok (as, rest) := by
  rw [Format.record] at read
  dsimp only at read
  rw [blank.skipBlanks_cons rfl] at read
  dsimp only at read
  rw [if_pos (.inr rfl)] at read
  split at read
  · cases read
  · next levels _ =>
    rw [if_neg (by decide)] at read
    exact ⟨_, levels, read⟩

/-- A record is read only from what is written as a list or an object, and nothing behind it is
read. -/
theorem Format.exists_frame_of_record (name : String) (consume : fields.Consume) {v : Bytes}
    (value : Written .value v) (short : v.length ≤ bounds.items) (blank : Blank blanks)
    (read : (Format.record name fields).read bounds (blanks ++ (v ++ rest)) = .ok (as, rest')) :
    (∃ frame s, v = Frame.opening frame :: s) ∧ rest' = rest := by
  have refused {b : UInt8} {s : Bytes} (no_blank : isBlankByte b = false) (no_list : b ≠ 91)
      (no_object : b ≠ 123) :
      (Format.record name fields).read bounds (blanks ++ b :: s) ≠ .ok (as, rest') := by
    rw [Format.record]
    dsimp only
    rw [blank.skipBlanks_cons no_blank]
    dsimp only
    rw [if_neg (not_or.2 ⟨no_object, no_list⟩)]
    exact fun read => by cases read
  rcases value.shape with
    ⟨s, rfl, -⟩ | ⟨frame, s, rfl, written⟩ | ⟨b, s, rfl, no_blank, -, no_frame⟩
  · exact absurd read (refused rfl (by decide) (by decide))
  · refine ⟨⟨frame, s, rfl⟩, ?_⟩
    have inside : s.length ≤ bounds.items := Nat.le_of_succ_le short
    cases frame with
    | list =>
      obtain ⟨expected, levels, list⟩ := exists_of_read_list name blank read
      refine Fields.readList_of_consume (n := 0) consume written ?_ list
      exact inside
    | object =>
      obtain ⟨levels, object⟩ := exists_of_read_object name blank read
      refine (Fields.readObject_of_consume consume written ?_ object).1
      exact inside
  · exact absurd read (refused no_blank no_frame.1 no_frame.2)

theorem Format.consumes_record (name : String) (consume : fields.Consume) :
    (Format.record name fields).Consumes :=
  fun _ _ _ _ _ _ value short blank _ read =>
    (exists_frame_of_record name consume value short blank read).2

theorem Format.Consumes.map {α β : Type} {f : Format α} (h : f.Consumes) (forth : α → β)
    (back : β → α) : (f.map forth back).Consumes := by
  intro bounds v blanks rest b rest' value short blank ended read
  obtain ⟨⟨a, behind⟩, found, same⟩ := map_eq_ok_iff.1 read
  cases same
  exact h bounds v blanks rest a _ value short blank ended found

/-- A record is read from an object only if all names write texts. -/
theorem Format.exists_members_of_record (name : String) (consume : fields.Consume) {s : Bytes}
    (written : Written (.rest .object true) s) (short : s.length ≤ bounds.items)
    (blank : Blank blanks)
    (read : (Format.record name fields).read bounds (blanks ++ 123 :: (s ++ rest)) =
      .ok (as, rest')) : ∃ members, Members true members s := by
  obtain ⟨levels, object⟩ := exists_of_read_object name blank read
  refine (Fields.readObject_of_consume consume written ?_ object).2
  exact short

/-- From an object whose members are known a record is read only if each field that is required
comes once, with a value that it accepts. -/
theorem Format.exists_accepts_of_record (name : String) (consume : fields.Consume) {s : Bytes}
    {members : List (String × Bytes)} (written : Members true members s)
    (values : ∀ member ∈ members, Written .value member.2) (short : s.length ≤ bounds.items)
    (blank : Blank blanks)
    (read : (Format.record name fields).read bounds (blanks ++ 123 :: (s ++ rest)) =
      .ok (as, rest')) :
    ∃ levels, ∀ field, fields.Requires field →
      ∃ v, bytesNamed field members = [v] ∧ fields.Accepts ⟨levels, bounds.items⟩ field v := by
  obtain ⟨levels, object⟩ := exists_of_read_object name blank read
  have short_values : ∀ member ∈ members,
      member.2.length ≤ (Bounds.mk levels bounds.items).items :=
    fun member mem => Nat.le_trans (written.length_le_of_mem mem) short
  obtain ⟨-, slots, completed, collects⟩ :=
    Fields.collects_of_readObject consume written values short_values object
  exact ⟨levels, fun field requires => requires.exists_accepts completed (collects field)⟩

theorem Format.oneText_of_record (name : String) (consume : fields.Consume) {s : Bytes}
    {members : List (String × Bytes)} (written : Members true members s)
    (values : ∀ member ∈ members, Written .value member.2) (short : s.length ≤ bounds.items)
    (blank : Blank blanks)
    (read : (Format.record name fields).read bounds (blanks ++ 123 :: (s ++ rest)) =
      .ok (as, rest')) {field : String} (wants : fields.WantsText field) :
    OneText field members := by
  obtain ⟨levels, accepts⟩ :=
    exists_accepts_of_record name consume written values short blank read
  obtain ⟨v, only, accepted⟩ := accepts field wants.requires
  have text := wants.accepts _ v accepted
  exact ⟨v, only, text.head?_eq (values _ (mem_of_bytesNamed only))⟩

end Records

end FlagHost.Json

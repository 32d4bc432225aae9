import ServiceDiagram.Proofs.Json.Fields

/-!
# Records are read as their values are decoded

A shape reads a record field by field, each field changing the record so far.  `Assembles shape
assemble` says what makes this the same as `assemble`, which builds the record from all its fields
at once: what is read so far is always what `assemble` makes of the fields so far.  Then the reader
of the shape agrees with `decode shape assemble` (`reads_record`), whichever notation a text uses.
-/

namespace ServiceDiagram.Json

variable {α : Type}

def decode (shape : Shape α) (assemble : Known → Option α) (v : Value) : Option α :=
  (v.fields? (shape.fields.map (·.key))).bind fun f =>
    if ∀ field ∈ shape.fields, field.required = true → (f field.key).isSome then assemble f
    else none

/-- **Reading field by field is assembling.** -/
structure Assembles (shape : Shape α) (assemble : Known → Option α) : Prop where
  distinct : (shape.fields.map (·.key)).Nodup
  start : assemble .nothing = some shape.start
  /-- a field changes what is assembled so far to what is assembled with it -/
  place : ∀ field ∈ shape.fields, ∀ f x, assemble f = some x → f field.key = none →
    Reads (field.read x) fun v => assemble (f.add field.key v)
  /-- what cannot be assembled cannot be assembled with more fields -/
  grows : ∀ f g : Known, f.Within g → assemble f = none → assemble g = none
  /-- nothing but the fields of the shape matters -/
  keys : ∀ f g : Known, (∀ key ∈ shape.fields.map (·.key), f key = g key) → assemble f = assemble g

/-! ### members -/

/-- `bs` stands in an object that `rest` follows, with these members still to come; nothing is read
yet if `first`, else a member is -/
inductive AtMembers (rest : Bytes) : Bool → List Member → Bytes → Prop
  | none {b : List Char} (hb : AreBlanks b) : AtMembers rest true [] (utf8 b ++ 0x7d :: rest)
  | first (m : Member) (members : List Member) :
      AtMembers rest true (m :: members)
        (utf8 m.all ++ (utf8 (commas (members.map (·.all))) ++ 0x7d :: rest))
  | next {after : List Char} (ha : AreBlanks after) (members : List Member) :
      AtMembers rest false members
        (utf8 after ++ (utf8 (commas (members.map (·.all))) ++ 0x7d :: rest))

namespace AtMembers
variable {rest bs : Bytes} {first : Bool} {m : Member} {members : List Member}

theorem blanks_end (h : AtMembers rest first [] bs) : skipBlanks bs = 0x7d :: rest := by
  cases h with
  | none hb => exact skipBlanks_to hb rfl rest
  | next ha => exact skipBlanks_to ha rfl rest

theorem nextKey_end (h : AtMembers rest first [] bs) : nextKey first bs = .ok Option.none := by
  rw [nextKey, h.blanks_end]
  rfl

theorem endObject_end (h : AtMembers rest first [] bs) : endObject bs = .ok rest := by
  rw [endObject, h.blanks_end]
  rfl

theorem nextKey_comma {more : Bytes} (h : skipBlanks bs = 0x2c :: rest)
    (hr : skipBlanks rest = 0x22 :: more) : nextKey false bs = .ok (some more) := by
  rw [nextKey, h]
  simp only [hr]
  rfl

def opened (m : Member) (behind : Bytes) : Bytes :=
  utf8 m.spelling ++ 0x22 :: (utf8 m.behind ++ 0x3a ::
    (utf8 (m.item.before ++ m.item.text) ++ behind))

theorem nextKey_member (h : AtMembers rest first (m :: members) bs) (hb : m.Blanks) :
    ∃ behind, nextKey first bs = .ok (some (opened m behind)) ∧ Ends behind ∧
      AtMembers rest false members behind ∧ behind.length < bs.length := by
  have hr := ends_commas (members.map (·.all)) (ends_brace rest)
  refine ⟨utf8 m.item.after ++ (utf8 (commas (members.map (·.all))) ++ 0x7d :: rest), ?_,
    ends_blanks hb.item.after hr, .next hb.item.after members, ?_⟩
  · unfold opened
    cases h with
    | first =>
      rw [nextKey, m.utf8_all, m.item.utf8_all, skipBlanks_to hb.before rfl]
      rfl
    | next ha =>
      rw [List.map_cons, utf8_commas_cons, m.utf8_all, m.item.utf8_all,
        nextKey_comma (skipBlanks_to ha rfl _) (skipBlanks_to hb.before rfl _)]
  · cases h with
    | first =>
      rw [m.utf8_all, m.item.utf8_all]
      simp only [List.length_append, List.length_cons]
      omega
    | next ha =>
      rw [List.map_cons, utf8_commas_cons, m.utf8_all, m.item.utf8_all]
      simp only [List.length_append, List.length_cons]
      omega

end AtMembers

theorem Spells.members {ms : List (String × Value)} {t : List Char} (h : Spells (.object ms) t)
    (rest : Bytes) :
    ∃ members bs, ms = members.map (fun m => (m.key, m.item.value)) ∧ utf8 t ++ rest = 0x7b :: bs ∧
      AtMembers rest true members bs ∧ (∀ m ∈ members, m.Blanks) ∧
      (∀ m ∈ members, SpellsText m.key.toList m.spelling) ∧
      ∀ m ∈ members, Spells m.item.value m.item.text := by
  cases h with
  | @noMembers b hb =>
    refine ⟨[], utf8 b ++ 0x7d :: rest, rfl, utf8_noMembers b rest, .none hb, ?_, ?_, ?_⟩
    all_goals
      intro m hm
      cases hm
  | @object members hne hb hk h =>
    match members, hne with
    | m :: members, _ =>
      exact ⟨m :: members, _, rfl, utf8_object m members rest, .first m members, hb, hk, h⟩

/-! ### reading members -/

section
variable {shape : Shape α} {assemble : Known → Option α}

theorem find?_key (fields : List (Field α)) (key : String) :
    (∃ field ∈ fields, field.key = key ∧ fields.find? (·.key == key) = some field) ∨
      key ∉ fields.map (·.key) ∧ fields.find? (·.key == key) = none := by
  cases h : fields.find? (·.key == key) with
  | some field =>
    have hk := List.find?_some h
    exact Or.inl ⟨field, List.mem_of_find?_eq_some h, eq_of_beq hk, rfl⟩
  | none =>
    refine Or.inr ⟨fun hm => ?_, rfl⟩
    obtain ⟨field, hf, hk⟩ := List.mem_map.mp hm
    exact List.find?_eq_none.mp h field hf (beq_iff_eq.mpr hk)

theorem skipColon_opened {m : Member} (hb : m.Blanks) (bs : Bytes) :
    skipColon (utf8 m.behind ++ 0x3a :: bs) = .ok bs := skipColon_colon hb.behind bs

theorem readMember_unknown {fields : List (Field α)} {m : Member}
    (hf : fields.find? (·.key == m.key) = none) (hb : m.Blanks)
    (hk : SpellsText m.key.toList m.spelling) (hs : Spells m.item.value m.item.text)
    (given : List String) (x : α) {behind : Bytes} (he : Ends behind) :
    readMember fields given x (AtMembers.opened m behind) = .ok (given, x, behind) := by
  unfold readMember AtMembers.opened
  rw [readString_text hk]
  simp only [hf]
  rw [skipColon_opened hb]
  show (skipValue _).map _ = _
  rw [skipValue_value hs hb.item.before he]
  rfl

theorem readMember_known {fields : List (Field α)} {field : Field α} {m : Member}
    (hf : fields.find? (·.key == m.key) = some field) (hb : m.Blanks)
    (hk : SpellsText m.key.toList m.spelling) (given : List String) (x : α) (behind : Bytes) :
    (readMember fields given x (AtMembers.opened m behind)).toOption =
      if m.key ∈ given then none
      else (field.read x (utf8 (m.item.before ++ m.item.text) ++ behind)).toOption.map
        fun p => (m.key :: given, p.1, p.2) := by
  unfold readMember AtMembers.opened
  rw [readString_text hk]
  simp only [hf]
  split
  · rfl
  · rw [skipColon_opened hb]
    exact toOption_map _ _

def closeMembers (shape : Shape α) (p : List String × α × Bytes) : Option (α × Bytes) :=
  if ∀ field ∈ shape.fields, field.required = true → field.key ∈ p.1 then
    (endObject p.2.2).toOption.map (p.2.1, ·)
  else none

/-- the fields that are known put together, if none is missing that is required -/
def complete (shape : Shape α) (assemble : Known → Option α) (f : Known) : Option α :=
  if ∀ field ∈ shape.fields, field.required = true → (f field.key).isSome then assemble f else none

theorem decode_eq (v : Value) :
    decode shape assemble v =
      (v.fields? (shape.fields.map (·.key))).bind (complete shape assemble) := rfl

theorem complete_of_optional (h : ∀ field ∈ shape.fields, field.required = false) :
    complete shape assemble = assemble := by
  funext f
  unfold complete
  rw [if_pos]
  intro field hf hr
  rw [h field hf] at hr
  cases hr

theorem Assembles.complete_eq_none (h : Assembles shape assemble) {f g : Known} (hf : f.Within g)
    (hn : assemble f = none) : complete shape assemble g = none := by
  unfold complete
  split
  · exact h.grows f g hf hn
  · rfl

theorem toOption_readMembers {fields : List (Field α)} {first : Bool} {given : List String} {x : α}
    {bs member : Bytes} (h : nextKey first bs = .ok (some member)) (fuel : Nat) :
    (readMembers fields (fuel + 1) first given x bs).toOption =
      (readMember fields given x member).toOption.bind fun p =>
        (readMembers fields fuel false p.1 p.2.1 p.2.2).toOption := by
  rw [readMembers, h]
  simp only
  cases readMember fields given x member <;> rfl

def Tells (shape : Shape α) (given : List String) (f : Known) : Prop :=
  ∀ field ∈ shape.fields, field.key ∈ given ↔ (f field.key).isSome = true

theorem Tells.add {given : List String} {f : Known} (h : Tells shape given f) (key : String)
    (v : Value) : Tells shape (key :: given) (f.add key v) := by
  intro field hf
  rw [List.mem_cons]
  by_cases e : field.key = key
  · rw [e, Known.add_self]
    simp
  · rw [Known.add_of_ne e, ← h field hf]
    simp [e]

/-- **One member.**  A known key may not come again; its value is assembled with the others. -/
theorem Assembles.toOption_readMember (h : Assembles shape assemble) {m : Member} (hb : m.Blanks)
    (hk : SpellsText m.key.toList m.spelling) (hs : Spells m.item.value m.item.text)
    {f : Known} {x : α} {given : List String} (hx : assemble f = some x) (hg : Tells shape given f)
    {behind : Bytes}
    (he : Ends behind) :
    (readMember shape.fields given x (AtMembers.opened m behind)).toOption =
      if m.key ∈ shape.fields.map (·.key) then
        if (f m.key).isSome then none
        else (assemble (f.add m.key m.item.value)).map fun y => (m.key :: given, y, behind)
      else some (given, x, behind) := by
  rcases find?_key shape.fields m.key with ⟨field, hmem, hkey, hfind⟩ | ⟨hmem, hfind⟩
  · have hin : m.key ∈ shape.fields.map (·.key) := List.mem_map.mpr ⟨field, hmem, hkey⟩
    have hgiven : m.key ∈ given ↔ (f m.key).isSome = true := hkey ▸ hg field hmem
    rw [readMember_known hfind hb hk, if_pos hin]
    by_cases hm : m.key ∈ given
    · rw [if_pos hm, if_pos (hgiven.mp hm)]
    · have hn : f m.key = none := Option.not_isSome_iff_eq_none.mp fun hi => hm (hgiven.mpr hi)
      have hread := h.place field hmem f x hx (hkey ▸ hn) hs hb.item.before he
      rw [hkey] at hread
      rw [if_neg hm, if_neg fun hi => hm (hgiven.mpr hi), hread, Option.map_map]
      rfl
  · rw [readMember_unknown hfind hb hk hs given x he, if_neg hmem]
    rfl

/-- **All members.**  The record read so far is what is assembled of the members so far, and a key
is given if its field is known; so reading on comes to completing what `collect` gives. -/
theorem Assembles.readMembers (h : Assembles shape assemble) {rest : Bytes} {members : List Member}
    (hb : ∀ m ∈ members, m.Blanks) (hk : ∀ m ∈ members, SpellsText m.key.toList m.spelling)
    (hs : ∀ m ∈ members, Spells m.item.value m.item.text) {first : Bool} {bs : Bytes} {fuel : Nat}
    (hat : AtMembers rest first members bs) (hfuel : bs.length < fuel) {f : Known} {x : α}
    {given : List String} (hx : assemble f = some x) (hg : Tells shape given f) :
    (readMembers shape.fields fuel first given x bs).toOption.bind (closeMembers shape) =
      ((collect (shape.fields.map (·.key)) f (members.map fun m => (m.key, m.item.value))).bind
        (complete shape assemble)).map (·, rest) := by
  induction members generalizing first bs fuel f x given with
  | nil =>
    cases fuel with
    | zero => omega
    | succ fuel =>
      rw [Json.readMembers, hat.nextKey_end]
      show closeMembers shape (given, x, bs) = (complete shape assemble f).map (·, rest)
      have hreq : (∀ field ∈ shape.fields, field.required = true → field.key ∈ given) ↔
          ∀ field ∈ shape.fields, field.required = true → (f field.key).isSome = true :=
        forall₂_congr fun field hf => imp_congr_right fun _ => hg field hf
      unfold closeMembers complete
      simp only [hreq, hat.endObject_end, hx]
      split <;> rfl
  | cons m members ih =>
    have hbm := hb m List.mem_cons_self
    obtain ⟨behind, hnext, hends, hat', hlt⟩ := hat.nextKey_member hbm
    cases fuel with
    | zero => omega
    | succ fuel =>
      have ih' := fun {f x given} (hx : assemble f = some x) (hg : Tells shape given f) =>
        ih (fun n hn => hb n (List.mem_cons_of_mem m hn))
          (fun n hn => hk n (List.mem_cons_of_mem m hn))
          (fun n hn => hs n (List.mem_cons_of_mem m hn)) hat'
          (by omega : behind.length < fuel) hx hg
      rw [toOption_readMembers hnext, List.map_cons, collect, h.toOption_readMember hbm
        (hk m List.mem_cons_self) (hs m List.mem_cons_self) hx hg hends]
      split
      · split
        · rfl
        · cases ha : assemble (f.add m.key m.item.value) with
          | none =>
            -- what is wrong stays wrong, whatever else comes
            cases hc : collect (shape.fields.map (·.key)) (f.add m.key m.item.value)
                (members.map fun m => (m.key, m.item.value)) with
            | none => rfl
            | some g =>
              show none = (complete shape assemble g).map (·, rest)
              rw [h.complete_eq_none (within_of_collect hc) ha]
              rfl
          | some y => exact ih' ha (hg.add m.key m.item.value)
      · exact ih' hx hg

theorem collect_nothing (h : Assembles shape assemble) (ms : List (String × Value)) :
    (collect (shape.fields.map (·.key)) .nothing ms).bind (complete shape assemble) =
      decode shape assemble (.object ms) := by
  have hiff : Once (shape.fields.map (·.key)) .nothing ms ↔
      ∀ key ∈ shape.fields.map (·.key), (ms.map Prod.fst).count key ≤ 1 := Iff.rfl
  rw [decode_eq, Value.fields?]
  split
  · next ho =>
    obtain ⟨g, hg, hl⟩ := collect_eq_some (hiff.mpr ho)
    rw [hg]
    show complete shape assemble g = complete shape assemble fun key => ms.lookup key
    unfold complete
    rw [h.keys g (fun key => ms.lookup key) hl]
    refine if_congr (forall₂_congr fun field hf => ?_) rfl rfl
    rw [hl field.key (List.mem_map.mpr ⟨field, hf, rfl⟩)]
    rfl
  · next ho =>
    rw [collect_eq_none fun h => ho (hiff.mp h)]

/-! ### positions -/

theorem toOption_readPositions_end {field : Field α} {first : Bool} {bs : Bytes}
    (h : nextItem first bs = .ok none) (fields : List (Field α)) (index : Nat) (x : α) :
    (readPositions shape (field :: fields) index first x bs).toOption =
      if field.required then none
      else (readPositions shape fields (index + 1) first x bs).toOption := by
  rw [readPositions, h]
  simp only
  split <;> rfl

theorem toOption_readPositions_item {field : Field α} {first : Bool} {bs item : Bytes}
    (h : nextItem first bs = .ok (some item)) (fields : List (Field α)) (index : Nat) (x : α) :
    (readPositions shape (field :: fields) index first x bs).toOption =
      (field.read x item).toOption.bind fun p =>
        (readPositions shape fields (index + 1) false p.1 p.2).toOption := by
  rw [readPositions, h]
  simp only
  cases field.read x item <;> rfl

def placedRecord (assemble : Known → Option α) (fields : List (Field α)) (f : Known)
    (vs : List Value) : Option α :=
  if vs.length ≤ fields.length ∧ ∀ field ∈ fields, field.required = true →
      (placed f (fields.map (·.key)) vs field.key).isSome then
    assemble (placed f (fields.map (·.key)) vs)
  else none

theorem placedRecord_nil {fields : List (Field α)} {field : Field α} {f : Known}
    (hf : f field.key = none) :
    placedRecord assemble (field :: fields) f [] =
      if field.required then none else placedRecord assemble fields f [] := by
  unfold placedRecord
  rw [placed_nil, placed_nil]
  by_cases hr : field.required = true
  · rw [if_pos hr, if_neg]
    intro hc
    have hsome := hc.2 field List.mem_cons_self hr
    rw [hf] at hsome
    cases hsome
  · rw [if_neg hr]
    refine if_congr (and_congr (by simp) ?_) rfl rfl
    rw [List.forall_mem_cons]
    exact and_iff_right fun h => absurd h hr

theorem placedRecord_cons {fields : List (Field α)} {field : Field α} (f : Known) (v : Value)
    (vs : List Value) (hd : field.key ∉ fields.map (·.key)) :
    placedRecord assemble (field :: fields) f (v :: vs) =
      placedRecord assemble fields (f.add field.key v) vs := by
  unfold placedRecord
  rw [List.map_cons, placed_cons v vs hd]
  refine if_congr (and_congr (by simp) ?_) rfl rfl
  rw [List.forall_mem_cons]
  refine and_iff_right fun _ => ?_
  rw [placed_of_not_mem hd, Known.add_self]
  rfl

theorem Assembles.placedRecord_eq_none (h : Assembles shape assemble) {fields : List (Field α)}
    {f : Known} (hf : ∀ field ∈ fields, f field.key = none) (hn : assemble f = none)
    (vs : List Value) : placedRecord assemble fields f vs = none := by
  unfold placedRecord
  have hwithin : f.Within (placed f (fields.map (·.key)) vs) := by
    refine within_placed vs fun key hk => ?_
    obtain ⟨field, hmem, rfl⟩ := List.mem_map.mp hk
    exact hf field hmem
  rw [h.grows f _ hwithin hn]
  split <;> rfl

/-- **All positions.**  The record read so far is what is assembled of the elements so far; so
reading on comes to completing what `placed` gives, if the elements do not outnumber the fields. -/
theorem Assembles.readPositions (h : Assembles shape assemble) {rest : Bytes}
    {fields : List (Field α)} (hin : ∀ field ∈ fields, field ∈ shape.fields)
    (hd : (fields.map (·.key)).Nodup) {items : List Item} (hb : ∀ i ∈ items, i.Blanks)
    (hs : ∀ i ∈ items, Spells i.value i.text) (index : Nat) {first : Bool} {bs : Bytes}
    (hat : AtItems rest first items bs) {f : Known} {x : α} (hx : assemble f = some x)
    (hf : ∀ field ∈ fields, f field.key = none) :
    (readPositions shape fields index first x bs).toOption.bind
        (fun p => (endList p.2).toOption.map (p.1, ·)) =
      (placedRecord assemble fields f (items.map (·.value))).map (·, rest) := by
  induction fields generalizing items first bs index f x with
  | nil =>
    show (endList bs).toOption.map (x, ·) = _
    cases items with
    | nil =>
      rw [hat.endList_end, List.map_nil]
      unfold placedRecord
      rw [if_pos ⟨Nat.le_refl 0, fun field hf => absurd hf List.not_mem_nil⟩, placed_nil, hx]
      rfl
    | cons i items =>
      rw [hat.endList_item (hb i List.mem_cons_self) (hs i List.mem_cons_self)]
      unfold placedRecord
      rw [if_neg fun hc => Nat.not_succ_le_zero _ hc.1]
      rfl
  | cons field fields ih =>
    rw [List.map_cons, List.nodup_cons] at hd
    have hin' : ∀ g ∈ fields, g ∈ shape.fields := fun g hg => hin g (List.mem_cons_of_mem field hg)
    have hf' : ∀ g ∈ fields, f g.key = none := fun g hg => hf g (List.mem_cons_of_mem field hg)
    have hfield := hf field List.mem_cons_self
    cases items with
    | nil =>
      -- the list is over: this field and the others are missing
      rw [toOption_readPositions_end hat.nextItem_end, List.map_nil, placedRecord_nil hfield]
      split
      · rfl
      · exact ih hin' hd.2 hb hs (index + 1) hat hx hf'
    | cons i items =>
      have hsi := hs i List.mem_cons_self
      obtain ⟨behind, hnext, hends, hat', -⟩ := hat.nextItem_item (hb i List.mem_cons_self) hsi
      have hread :=
        h.place field (hin field List.mem_cons_self) f x hx hfield hsi areBlanks_nil hends
      rw [List.nil_append] at hread
      change _ = (assemble (f.add field.key i.value)).map (·, behind) at hread
      have hrest : ∀ g ∈ fields, f.add field.key i.value g.key = none := fun g hg => by
        have hne : g.key ≠ field.key := fun e => hd.1 (e ▸ List.mem_map.mpr ⟨g, hg, rfl⟩)
        rw [Known.add_of_ne hne]
        exact hf' g hg
      rw [toOption_readPositions_item hnext, hread, List.map_cons, placedRecord_cons f _ _ hd.1]
      cases ha : assemble (f.add field.key i.value) with
      | none =>
        rw [h.placedRecord_eq_none hrest ha]
        rfl
      | some y =>
        exact ih hin' hd.2 (fun j hj => hb j (List.mem_cons_of_mem i hj))
          (fun j hj => hs j (List.mem_cons_of_mem i hj)) (index + 1) hat' ha hrest

/-! ### both notations -/

theorem tells_nothing (shape : Shape α) : Tells shape [] .nothing := by
  intro field _
  exact ⟨fun h => absurd h List.not_mem_nil, fun h => by cases h⟩

theorem toOption_closed (shape : Shape α) (given : List String) (x : α) (bs : Bytes) :
    (match shape.fields.find? fun f : Field α => f.required && !given.contains f.key with
      | some field => Except.error (Fault.missingField field.key)
      | none => (endObject bs).map fun behind => (x, behind)).toOption =
      closeMembers shape (given, x, bs) := by
  unfold closeMembers
  split
  · next field hfind =>
    rw [if_neg]
    · rfl
    · intro hall
      have hp := List.find?_some hfind
      rw [Bool.and_eq_true, Bool.not_eq_true', ← Bool.not_eq_true, List.contains_iff_mem] at hp
      exact hp.2 (hall field (List.mem_of_find?_eq_some hfind) hp.1)
  · next hnone =>
    rw [if_pos]
    · exact toOption_map _ _
    · intro field hf hr
      have hp := List.find?_eq_none.mp hnone field hf
      rw [hr, Bool.true_and, Bool.not_eq_true', Bool.not_eq_false, List.contains_iff_mem] at hp
      exact hp

theorem placedRecord_nothing (shape : Shape α) (assemble : Known → Option α) (vs : List Value) :
    placedRecord assemble shape.fields .nothing vs = decode shape assemble (.array vs) := by
  rw [decode_eq, Value.fields?, List.length_map, placedRecord, placed_empty]
  by_cases hl : vs.length ≤ shape.fields.length
  · rw [if_pos hl, Option.bind_some, complete]
    exact if_congr (and_iff_right hl) rfl rfl
  · rw [if_neg hl, if_neg fun hc => hl hc.1]
    rfl

theorem decode_of_ne {v : Value} (ha : ∀ items, v ≠ .array items)
    (ho : ∀ members, v ≠ .object members) : decode shape assemble v = none := by
  cases v with
  | array items => exact absurd rfl (ha items)
  | object members => exact absurd rfl (ho members)
  | _ => rfl

/-- **A record is read as its value is decoded.** -/
theorem reads_record (h : Assembles shape assemble) :
    Reads (readRecord shape) (decode shape assemble) := by
  intro v t hs b rest hb _
  have hskip := skipBlanks_value hs hb rest
  obtain ⟨x, xs, e, ho⟩ := hs.opens
  by_cases hx : x = 0x5b
  · obtain ⟨vs, rfl⟩ := ho.form.2.2.1 hx
    obtain ⟨items, bs, rfl, e', hat, hbs, hss⟩ := hs.items rest
    have key := h.readPositions (fun field hf => hf) h.distinct hbs hss 0 hat h.start
      fun _ _ => rfl
    rw [placedRecord_nothing] at key
    rw [e'] at hskip
    rw [← key, readRecord, hskip]
    simp only [if_true]
    cases Json.readPositions shape shape.fields 0 true shape.start bs with
    | error e => rfl
    | ok p => exact toOption_map (endList p.2) (p.1, ·)
  by_cases hx' : x = 0x7b
  · obtain ⟨ms, rfl⟩ := ho.form.2.2.2 hx'
    obtain ⟨members, bs, rfl, e', hat, hbs, hks, hss⟩ := hs.members rest
    have key := h.readMembers hbs hks hss hat (Nat.lt_succ_self bs.length) h.start
      (tells_nothing shape)
    rw [collect_nothing h] at key
    rw [e'] at hskip
    rw [← key, readRecord, hskip]
    simp only [if_true]
    cases Json.readMembers shape.fields (bs.length + 1) true [] shape.start bs with
    | error e => rfl
    | ok p => exact toOption_closed shape p.1 p.2.1 p.2.2
  · have harray : ∀ items, v ≠ .array items := by
      rintro items rfl
      exact hx ho
    have hobject : ∀ members, v ≠ .object members := by
      rintro members rfl
      exact hx' ho
    rw [e, List.cons_append] at hskip
    rw [readRecord, hskip, decode_of_ne harray hobject]
    simp only [if_neg hx, if_neg hx']
    rfl

/-- **A text is read as its value is decoded.** -/
theorem readWhole_isText (h : Assembles shape assemble) {v : Value} {cs : List Char}
    (hv : IsText v cs) : (readWhole shape (utf8 cs)).toOption = decode shape assemble v := by
  obtain ⟨before, text, after, rfl, hb, ha, hs⟩ := hv
  have hends : Ends (utf8 after) := by
    rw [← List.append_nil (utf8 after)]
    exact ends_blanks ha ends_nil
  have key := reads_record h hs hb hends
  have hblank : skipBlanks (utf8 after) = [] := by
    rw [← List.append_nil (utf8 after), skipBlanks_blanks ha]
    rfl
  rw [← List.append_assoc, utf8_append, readWhole]
  cases hr : readRecord shape (utf8 (before ++ text) ++ utf8 after) with
  | error e =>
    rw [hr] at key
    cases hd : decode shape assemble v with
    | none => rfl
    | some x => rw [hd] at key; cases key
  | ok p =>
    rw [hr] at key
    cases hd : decode shape assemble v with
    | none => rw [hd] at key; cases key
    | some x =>
      rw [hd] at key
      cases key
      simp only [hblank, if_true]
      rfl

end

end ServiceDiagram.Json

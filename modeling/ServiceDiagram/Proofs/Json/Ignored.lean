import ServiceDiagram.Proofs.Json.Values

/-!
# Ignored values

A member with an unknown key is passed over, whatever its value.  `IsPassed t` says that `t` is
passed over as one value, between any blanks and inside any open lists and objects;
`Spells.isPassed` shows it of every spelling of every value.  A list is its first element and a tail
in which each element stands behind a comma; the induction over the tail carries the frame that is
open.  -/

namespace ServiceDiagram.Json

/-! ### the layout of lists and objects -/

def commas (texts : List (List Char)) : List Char := texts.flatMap (',' :: ·)

theorem commas_cons (t : List Char) (ts : List (List Char)) :
    commas (t :: ts) = ',' :: (t ++ commas ts) := rfl

theorem intercalate_eq (t : List Char) (ts : List (List Char)) :
    [','].intercalate (t :: ts) = t ++ commas ts := by
  induction ts generalizing t with
  | nil => simp [commas, List.intercalate]
  | cons u us ih =>
    rw [List.intercalate_cons_cons, ih, commas_cons, List.append_assoc]
    rfl

theorem utf8_commas_cons (t : List Char) (ts : List (List Char)) (rest : Bytes) :
    utf8 (commas (t :: ts)) ++ rest = 0x2c :: (utf8 t ++ (utf8 (commas ts) ++ rest)) := by
  rw [commas_cons]
  show 0x2c :: (utf8 (t ++ commas ts) ++ rest) = _
  rw [utf8_append, List.append_assoc]

theorem ends_commas (ts : List (List Char)) {rest : Bytes} (hr : Ends rest) :
    Ends (utf8 (commas ts) ++ rest) := by
  cases ts with
  | nil => exact hr
  | cons t ts =>
    rw [utf8_commas_cons]
    exact ends_comma _

theorem Item.utf8_all (i : Item) (rest : Bytes) :
    utf8 i.all ++ rest = utf8 (i.before ++ i.text) ++ (utf8 i.after ++ rest) := by
  unfold Item.all
  rw [← List.append_assoc i.before, utf8_append, List.append_assoc]

theorem Member.utf8_all (m : Member) (rest : Bytes) :
    utf8 m.all ++ rest = utf8 m.before ++ 0x22 :: (utf8 m.spelling ++
      0x22 :: (utf8 m.behind ++ 0x3a :: (utf8 m.item.all ++ rest))) := by
  unfold Member.all
  rw [utf8_append, List.append_assoc]
  show _ ++ 0x22 :: (utf8 (m.spelling ++ _) ++ rest) = _
  rw [utf8_append, List.append_assoc]
  show _ ++ 0x22 :: (_ ++ 0x22 :: (utf8 (m.behind ++ _) ++ rest)) = _
  rw [utf8_append, List.append_assoc]
  rfl

theorem utf8_list (i : Item) (items : List Item) (rest : Bytes) :
    utf8 ('[' :: ([','].intercalate ((i :: items).map (·.all)) ++ [']'])) ++ rest =
      0x5b :: (utf8 i.all ++ (utf8 (commas (items.map (·.all))) ++ 0x5d :: rest)) := by
  rw [List.map_cons, intercalate_eq]
  show 0x5b :: (utf8 (i.all ++ _ ++ [']']) ++ rest) = _
  rw [utf8_append, utf8_append, List.append_assoc, List.append_assoc]
  rfl

theorem utf8_object (m : Member) (members : List Member) (rest : Bytes) :
    utf8 ('\x7b' :: ([','].intercalate ((m :: members).map (·.all)) ++ ['\x7d'])) ++ rest =
      0x7b :: (utf8 m.all ++ (utf8 (commas (members.map (·.all))) ++ 0x7d :: rest)) := by
  rw [List.map_cons, intercalate_eq]
  show 0x7b :: (utf8 (m.all ++ _ ++ ['\x7d']) ++ rest) = _
  rw [utf8_append, utf8_append, List.append_assoc, List.append_assoc]
  rfl

theorem utf8_closed {c : Char} (hc : c.toNat < 0x80) (cs : List Char) (rest : Bytes) :
    utf8 (cs ++ [c]) ++ rest = utf8 cs ++ c.toNat.toUInt8 :: rest := by
  rw [utf8_append, List.append_assoc, utf8_cons_ascii hc]
  rfl

theorem utf8_string (cs : List Char) (rest : Bytes) :
    utf8 ('"' :: (cs ++ ['"'])) ++ rest = 0x22 :: (utf8 cs ++ 0x22 :: rest) :=
  congrArg (0x22 :: ·) (utf8_closed (by decide) cs rest)

theorem utf8_noItems (cs : List Char) (rest : Bytes) :
    utf8 ('[' :: (cs ++ [']'])) ++ rest = 0x5b :: (utf8 cs ++ 0x5d :: rest) :=
  congrArg (0x5b :: ·) (utf8_closed (by decide) cs rest)

theorem utf8_noMembers (cs : List Char) (rest : Bytes) :
    utf8 ('\x7b' :: (cs ++ ['\x7d'])) ++ rest = 0x7b :: (utf8 cs ++ 0x7d :: rest) :=
  congrArg (0x7b :: ·) (utf8_closed (by decide) cs rest)

/-! ### what is passed over -/

def IsPassed (t : List Char) : Prop :=
  ∀ (b : List Char) (stack : List Frame) (rest : Bytes), AreBlanks b → Ends rest →
    skipOpen .value stack (utf8 (b ++ t) ++ rest) = skipOpen .next stack rest

/-! ### leaves -/

theorem isPassed_leaf {v : Value} {t : List Char} (h : Spells v t)
    (harray : ∀ items, v ≠ .array items) (hobject : ∀ members, v ≠ .object members)
    (hs : ∀ rest, Ends rest → skipLeaf (utf8 t ++ rest) = .ok rest) : IsPassed t := by
  intro b stack rest hb hr
  have hskip := skipBlanks_value h hb rest
  have hleaf := hs rest hr
  obtain ⟨x, xs, e, ho⟩ := h.opens
  have hx : x ≠ 0x5b := fun hx => (ho.form.2.2.1 hx).elim harray
  have hx' : x ≠ 0x7b := fun hx => (ho.form.2.2.2 hx).elim hobject
  rw [e, List.cons_append] at hskip hleaf
  rw [skipOpen_value stack hskip, if_neg hx, if_neg hx', hleaf]
  rfl

theorem skipLeaf_number {n : Numeral} (h : n.Valid) {rest : Bytes} (hr : Ends rest) :
    skipLeaf (utf8 n.text ++ rest) = .ok rest := by
  have hskip := skipNumber_unsigned h hr
  unfold Numeral.text
  cases n.negative with
  | true => exact hskip
  | false =>
    obtain ⟨hne, hds⟩ := h.whole
    show skipLeaf (utf8 n.unsigned ++ rest) = .ok rest
    unfold Numeral.unsigned at hskip ⊢
    cases hw : n.whole with
    | nil => exact absurd hw hne
    | cons d ds =>
      rw [hw] at hds hskip
      obtain ⟨e, hd, -⟩ :=
        digit_byte (hds d List.mem_cons_self) (ds ++ (n.fractionText ++ n.exponentText))
      rw [List.cons_append, e] at hskip ⊢
      -- a digit is none of the other first bytes of a leaf
      have hne : ∀ b : UInt8, isDigit b = false → d.toNat.toUInt8 ≠ b := by
        rintro b hb rfl
        rw [hb] at hd
        exact Bool.false_ne_true hd
      rw [List.cons_append] at hskip ⊢
      rw [skipLeaf, if_neg (hne 0x6e rfl), if_neg (hne 0x74 rfl), if_neg (hne 0x66 rfl),
        if_neg (hne 0x2d rfl), if_pos hd]
      exact hskip

/-! ### keys -/

theorem skipColon_colon {b : List Char} (hb : AreBlanks b) (rest : Bytes) :
    skipColon (utf8 b ++ 0x3a :: rest) = .ok rest := by
  rw [skipColon, skipBlanks_to hb rfl]
  rfl

theorem skipKey_member {m : Member} (hb : m.Blanks) (hk : SpellsText m.key.toList m.spelling)
    (rest : Bytes) : skipKey (utf8 m.all ++ rest) = .ok (utf8 m.item.all ++ rest) := by
  rw [m.utf8_all, skipKey, skipBlanks_to hb.before rfl]
  simp only [if_true, skipString_text hk]
  exact skipColon_colon hb.behind _

/-! ### lists and objects -/

theorem skipOpen_item {i : Item} (hb : i.Blanks) (h : IsPassed i.text) (stack : List Frame)
    {rest : Bytes} (hr : Ends rest) :
    skipOpen .value stack (utf8 i.all ++ rest) = skipOpen .next stack (utf8 i.after ++ rest) := by
  rw [i.utf8_all, h _ _ _ hb.before (ends_blanks hb.after hr)]

theorem skipOpen_items {items : List Item} (hb : ∀ i ∈ items, i.Blanks)
    (h : ∀ i ∈ items, IsPassed i.text) {after : List Char} (ha : AreBlanks after)
    (stack : List Frame) (rest : Bytes) :
    skipOpen .next (.list :: stack)
      (utf8 after ++ (utf8 (commas (items.map (·.all))) ++ 0x5d :: rest)) =
      skipOpen .next stack rest := by
  induction items generalizing after with
  | nil => exact skipOpen_next .list stack (skipBlanks_to ha rfl rest)
  | cons i items ih =>
    have hi := hb i List.mem_cons_self
    rw [List.map_cons, utf8_commas_cons, skipOpen_next .list stack (skipBlanks_to ha rfl _)]
    show skipOpen .value (.list :: stack) _ = _
    rw [skipOpen_item hi (h i List.mem_cons_self) _ (ends_commas _ (ends_bracket rest))]
    exact ih (fun j hj => hb j (List.mem_cons_of_mem i hj))
      (fun j hj => h j (List.mem_cons_of_mem i hj)) hi.after

theorem skipOpen_members {members : List Member} (hb : ∀ m ∈ members, m.Blanks)
    (hk : ∀ m ∈ members, SpellsText m.key.toList m.spelling)
    (h : ∀ m ∈ members, IsPassed m.item.text) {after : List Char} (ha : AreBlanks after)
    (stack : List Frame) (rest : Bytes) :
    skipOpen .next (.object :: stack)
      (utf8 after ++ (utf8 (commas (members.map (·.all))) ++ 0x7d :: rest)) =
      skipOpen .next stack rest := by
  induction members generalizing after with
  | nil => exact skipOpen_next .object stack (skipBlanks_to ha rfl rest)
  | cons m members ih =>
    have hm := hb m List.mem_cons_self
    rw [List.map_cons, utf8_commas_cons, skipOpen_next .object stack (skipBlanks_to ha rfl _)]
    show (skipKey _).bind (skipOpen .value (.object :: stack)) = _
    rw [skipKey_member hm (hk m List.mem_cons_self)]
    show skipOpen .value (.object :: stack) _ = _
    rw [skipOpen_item hm.item (h m List.mem_cons_self) _ (ends_commas _ (ends_brace rest))]
    exact ih (fun n hn => hb n (List.mem_cons_of_mem m hn))
      (fun n hn => hk n (List.mem_cons_of_mem m hn))
      (fun n hn => h n (List.mem_cons_of_mem m hn)) hm.item.after

theorem skipBlanks_open {b t : List Char} (hb : AreBlanks b) {x : UInt8} (hx : isBlank x = false)
    {rest more : Bytes} (e : utf8 t ++ rest = x :: more) :
    skipBlanks (utf8 (b ++ t) ++ rest) = x :: more := by
  rw [utf8_append, List.append_assoc, e]
  exact skipBlanks_to hb hx more

theorem isPassed_number {n : Numeral} (h : n.Valid) : IsPassed n.text := by
  exact isPassed_leaf (.number h) nofun nofun fun _ hr => skipLeaf_number h hr

theorem isPassed_string {s : String} {cs : List Char} (h : SpellsText s.toList cs) :
    IsPassed ('"' :: (cs ++ ['"'])) := by
  refine isPassed_leaf (.string h) nofun nofun fun rest _ => ?_
  rw [utf8_string]
  exact skipString_text h rest

theorem isPassed_noItems {c : List Char} (h : AreBlanks c) : IsPassed ('[' :: (c ++ [']'])) := by
  intro b stack rest hb _
  rw [skipOpen_value stack (skipBlanks_open hb rfl (utf8_noItems c rest)), if_pos rfl]
  exact skipOpen_first .list stack (skipBlanks_to h rfl rest)

theorem isPassed_noMembers {c : List Char} (h : AreBlanks c) :
    IsPassed ('\x7b' :: (c ++ ['\x7d'])) := by
  intro b stack rest hb _
  rw [skipOpen_value stack (skipBlanks_open hb rfl (utf8_noMembers c rest)), if_neg (by decide),
    if_pos rfl]
  exact skipOpen_first .object stack (skipBlanks_to h rfl rest)

theorem isPassed_array {items : List Item} (hne : items ≠ []) (hb : ∀ i ∈ items, i.Blanks)
    (hs : ∀ i ∈ items, Spells i.value i.text) (h : ∀ i ∈ items, IsPassed i.text) :
    IsPassed ('[' :: ([','].intercalate (items.map (·.all)) ++ [']'])) := by
  intro b stack rest hblank _
  match items, hne with
  | i :: items, _ =>
    have hi := hb i List.mem_cons_self
    have hr := ends_commas (items.map (·.all)) (ends_bracket rest)
    -- the first element does not close the list
    obtain ⟨x, xs, e, ho⟩ := (hs i List.mem_cons_self).opens
    have hfirst : skipBlanks (utf8 i.all ++ (utf8 (commas (items.map (·.all))) ++ 0x5d :: rest)) =
        x :: (xs ++ (utf8 i.after ++ (utf8 (commas (items.map (·.all))) ++ 0x5d :: rest))) := by
      rw [i.utf8_all, skipBlanks_value (hs i List.mem_cons_self) hi.before, e, List.cons_append]
    rw [skipOpen_value stack (skipBlanks_open hblank rfl (utf8_list i items rest)), if_pos rfl,
      skipOpen_first .list stack hfirst,
      if_neg (show x ≠ Frame.list.close from ho.ordinary.2.2.1)]
    show skipOpen .value (.list :: stack) _ = _
    rw [skipOpen_item hi (h i List.mem_cons_self) _ hr]
    exact skipOpen_items (fun j hj => hb j (List.mem_cons_of_mem i hj))
      (fun j hj => h j (List.mem_cons_of_mem i hj)) hi.after stack rest

theorem isPassed_object {members : List Member} (hne : members ≠ []) (hb : ∀ m ∈ members, m.Blanks)
    (hk : ∀ m ∈ members, SpellsText m.key.toList m.spelling)
    (h : ∀ m ∈ members, IsPassed m.item.text) :
    IsPassed ('\x7b' :: ([','].intercalate (members.map (·.all)) ++ ['\x7d'])) := by
  intro b stack rest hblank _
  match members, hne with
  | m :: members, _ =>
    have hm := hb m List.mem_cons_self
    have hr := ends_commas (members.map (·.all)) (ends_brace rest)
    -- the quote of the first key does not close the object
    have hfirst : ∃ more, skipBlanks (utf8 m.all ++
        (utf8 (commas (members.map (·.all))) ++ 0x7d :: rest)) = 0x22 :: more := by
      rw [m.utf8_all, skipBlanks_to hm.before rfl]
      exact ⟨_, rfl⟩
    obtain ⟨more, hfirst⟩ := hfirst
    rw [skipOpen_value stack (skipBlanks_open hblank rfl (utf8_object m members rest)),
      if_neg (by decide), if_pos rfl, skipOpen_first .object stack hfirst,
      if_neg (show (0x22 : UInt8) ≠ Frame.object.close by decide)]
    show (skipKey _).bind (skipOpen .value (.object :: stack)) = _
    rw [skipKey_member hm (hk m List.mem_cons_self)]
    show skipOpen .value (.object :: stack) _ = _
    rw [skipOpen_item hm.item (h m List.mem_cons_self) _ hr]
    exact skipOpen_members (fun n hn => hb n (List.mem_cons_of_mem m hn))
      (fun n hn => hk n (List.mem_cons_of_mem m hn))
      (fun n hn => h n (List.mem_cons_of_mem m hn)) hm.item.after stack rest

/-- **Every spelling of every value is passed over as one value.** -/
theorem Spells.isPassed {v : Value} {t : List Char} (h : Spells v t) : IsPassed t := by
  induction h with
  | null => exact isPassed_leaf .null nofun nofun fun _ _ => rfl
  | wordTrue => exact isPassed_leaf .wordTrue nofun nofun fun _ _ => rfl
  | wordFalse => exact isPassed_leaf .wordFalse nofun nofun fun _ _ => rfl
  | number h => exact isPassed_number h
  | string h => exact isPassed_string h
  | noItems h => exact isPassed_noItems h
  | array hne hb h ih => exact isPassed_array hne hb h ih
  | noMembers h => exact isPassed_noMembers h
  | object hne hb hk h ih => exact isPassed_object hne hb hk ih

theorem skipValue_value {v : Value} {t b : List Char} (h : Spells v t) (hb : AreBlanks b)
    {rest : Bytes} (hr : Ends rest) : skipValue (utf8 (b ++ t) ++ rest) = .ok rest := by
  rw [skipValue, h.isPassed b [] rest hb hr, skipOpen]

end ServiceDiagram.Json

import ServiceDiagram.Json.Record
import ServiceDiagram.Proofs.Json.Ignored

/-!
# Readers of values

`Reads read decode` says that the one-pass reader `read` and the decoder `decode` of value trees
agree: on any spelling of a value, between any blanks, the reader succeeds exactly if the decoder
does, with the same result, and leaves the bytes behind the value.

* `reads_text`, `reads_optional`   texts, and texts or `null`;
* `reads_list`                     lists of values for which the two agree.
-/

namespace ServiceDiagram.Json

/-! ### decoders -/

namespace Value

def text? : Value → Option String
  | .string s => some s
  | _ => none

def optional? : Value → Option (Option String)
  | .null => some none
  | .string s => some (some s)
  | _ => none

def list? {α : Type} (decode : Value → Option α) : Value → Option (List α)
  | .array items => items.mapM decode
  | _ => none

end Value

variable {α : Type}

/-- **A reader and a decoder agree.** -/
def Reads (read : Bytes → Except Fault (α × Bytes)) (decode : Value → Option α) : Prop :=
  ∀ ⦃v : Value⦄ ⦃t : List Char⦄, Spells v t → ∀ ⦃b : List Char⦄ ⦃rest : Bytes⦄, AreBlanks b →
    Ends rest → (read (utf8 (b ++ t) ++ rest)).toOption = (decode v).map (·, rest)

theorem toOption_map {ε β : Type} (r : Except ε α) (f : α → β) :
    (r.map f).toOption = r.toOption.map f := by
  cases r <;> rfl

theorem Reads.map {β : Type} {read : Bytes → Except Fault (α × Bytes)} {decode : Value → Option α}
    (h : Reads read decode) (f : α → β) :
    Reads (fun bs => (read bs).map fun p => (f p.1, p.2)) fun v => (decode v).map f := by
  intro v t hs b rest hb hr
  show ((read _).map _).toOption = _
  rw [toOption_map, h hs hb hr, Option.map_map, Option.map_map]
  rfl

theorem Reads.congr {read : Bytes → Except Fault (α × Bytes)} {decode decode' : Value → Option α}
    (h : Reads read decode) (e : ∀ v, decode v = decode' v) : Reads read decode' :=
  funext e ▸ h

/-! ### texts -/

theorem text?_of_ne {v : Value} (h : ∀ s, v ≠ .string s) : v.text? = none := by
  cases v with
  | string s => exact absurd rfl (h s)
  | _ => rfl

theorem optional?_of_ne {v : Value} (h : v ≠ .null) : v.optional? = v.text?.map some := by
  cases v with
  | null => exact absurd rfl h
  | _ => rfl

theorem reads_text : Reads readText Value.text? := by
  intro v t hs b rest hb _
  have hskip := skipBlanks_value hs hb rest
  obtain ⟨x, xs, e, ho⟩ := hs.opens
  by_cases hx : x = 0x22
  · obtain ⟨s, rfl⟩ := ho.form.2.1 hx
    cases hs with
    | string h =>
      rw [utf8_string] at hskip
      rw [readText, hskip]
      simp only [if_true]
      rw [readString_text h]
      rfl
  · have hv : ∀ s, v ≠ .string s := by
      rintro s rfl
      exact hx ho
    rw [e, List.cons_append] at hskip
    rw [readText, hskip, text?_of_ne hv]
    simp only [if_neg hx]
    rfl

theorem reads_optional : Reads (readOption readText) Value.optional? := by
  intro v t hs b rest hb hr
  have hskip := skipBlanks_value hs hb rest
  obtain ⟨x, xs, e, ho⟩ := hs.opens
  by_cases hx : x = 0x6e
  · obtain rfl := ho.form.1 hx
    cases hs with
    | null =>
      rw [readOption, hskip]
      rfl
  · -- everything but a null is left to the reader of texts
    have hv : v ≠ .null := by
      rintro rfl
      exact hx ho
    have htext := reads_text hs areBlanks_nil hr
    rw [List.nil_append, e, List.cons_append] at htext
    rw [e, List.cons_append] at hskip
    rw [readOption, hskip, optional?_of_ne hv]
    simp only [if_neg hx]
    rw [toOption_map, htext, Option.map_map, Option.map_map]
    rfl

/-! ### the elements of a list -/

/-- `bs` stands in a list that `rest` follows, with these elements still to come; nothing is read
yet if `first`, else an element is -/
inductive AtItems (rest : Bytes) : Bool → List Item → Bytes → Prop
  | none {b : List Char} (hb : AreBlanks b) : AtItems rest true [] (utf8 b ++ 0x5d :: rest)
  | first (i : Item) (items : List Item) :
      AtItems rest true (i :: items)
        (utf8 i.all ++ (utf8 (commas (items.map (·.all))) ++ 0x5d :: rest))
  | next {after : List Char} (ha : AreBlanks after) (items : List Item) :
      AtItems rest false items (utf8 after ++ (utf8 (commas (items.map (·.all))) ++ 0x5d :: rest))

namespace AtItems
variable {rest bs : Bytes} {first : Bool} {i : Item} {items : List Item}

theorem blanks_end (h : AtItems rest first [] bs) : skipBlanks bs = 0x5d :: rest := by
  cases h with
  | none hb => exact skipBlanks_to hb rfl rest
  | next ha => exact skipBlanks_to ha rfl rest

theorem nextItem_end (h : AtItems rest first [] bs) : nextItem first bs = .ok Option.none := by
  rw [nextItem, h.blanks_end]
  rfl

theorem endList_end (h : AtItems rest first [] bs) : endList bs = .ok rest := by
  rw [endList, h.blanks_end]
  rfl

theorem nextItem_comma {more : Bytes} {c : UInt8} (h : skipBlanks bs = 0x2c :: rest)
    (hr : skipBlanks rest = c :: more) (hc : c ≠ 0x5d) :
    nextItem false bs = .ok (some (c :: more)) := by
  rw [nextItem, h]
  simp only [hr, if_neg hc]
  rfl

theorem nextItem_item (h : AtItems rest first (i :: items) bs) (hb : i.Blanks)
    (hs : Spells i.value i.text) :
    ∃ behind, nextItem first bs = .ok (some (utf8 i.text ++ behind)) ∧ Ends behind ∧
      AtItems rest false items behind ∧ behind.length < bs.length := by
  have hr := ends_commas (items.map (·.all)) (ends_bracket rest)
  refine ⟨utf8 i.after ++ (utf8 (commas (items.map (·.all))) ++ 0x5d :: rest), ?_,
    ends_blanks hb.after hr, .next hb.after items, ?_⟩
  · obtain ⟨x, xs, e, ho⟩ := hs.opens
    obtain ⟨hx, -, hx', -⟩ := ho.ordinary
    have hskip : skipBlanks (utf8 i.all ++ (utf8 (commas (items.map (·.all))) ++ 0x5d :: rest)) =
        x :: (xs ++ (utf8 i.after ++ (utf8 (commas (items.map (·.all))) ++ 0x5d :: rest))) := by
      rw [i.utf8_all, skipBlanks_value hs hb.before, e, List.cons_append]
    rw [e]
    cases h with
    | first =>
      rw [nextItem, hskip]
      simp only [if_neg hx', if_true]
      rfl
    | next ha =>
      rw [List.map_cons, utf8_commas_cons, nextItem_comma (skipBlanks_to ha rfl _) hskip hx']
      rfl
  · obtain ⟨x, xs, e, -⟩ := hs.opens
    cases h with
    | first =>
      rw [i.utf8_all, utf8_append, e]
      simp only [List.length_append, List.length_cons]
      omega
    | next ha =>
      rw [List.map_cons, utf8_commas_cons, i.utf8_all]
      simp only [List.length_append, List.length_cons]
      omega

theorem endList_item (h : AtItems rest first (i :: items) bs) (hb : i.Blanks)
    (hs : Spells i.value i.text) : (endList bs).toOption = Option.none := by
  obtain ⟨x, xs, e, ho⟩ := hs.opens
  obtain ⟨-, -, hx', -⟩ := ho.ordinary
  cases h with
  | first =>
    rw [endList, i.utf8_all, skipBlanks_value hs hb.before, e]
    simp only [List.cons_append, if_neg hx']
    split <;> rfl
  | next ha =>
    rw [List.map_cons, utf8_commas_cons, endList, skipBlanks_to ha rfl]
    show (if _ then Except.error Fault.trailingComma else .error .trailingCharacters).toOption = _
    split <;> rfl

end AtItems

/-! ### lists -/

theorem Spells.items {vs : List Value} {t : List Char} (h : Spells (.array vs) t) (rest : Bytes) :
    ∃ items bs, vs = items.map (·.value) ∧ utf8 t ++ rest = 0x5b :: bs ∧
      AtItems rest true items bs ∧ (∀ i ∈ items, i.Blanks) ∧
      ∀ i ∈ items, Spells i.value i.text := by
  cases h with
  | @noItems b hb =>
    refine ⟨[], utf8 b ++ 0x5d :: rest, rfl, utf8_noItems b rest, .none hb, ?_, ?_⟩
    · intro i hi
      cases hi
    · intro i hi
      cases hi
  | @array items hne hb h =>
    match items, hne with
    | i :: items, _ => exact ⟨i :: items, _, rfl, utf8_list i items rest, .first i items, hb, h⟩

theorem toOption_readItems {read : Bytes → Except Fault (α × Bytes)} {first : Bool}
    {bs item : Bytes} (h : nextItem first bs = .ok (some item)) (fuel : Nat) :
    (readItems read (fuel + 1) first bs).toOption = (read item).toOption.bind fun p =>
      (readItems read fuel false p.2).toOption.map fun q => (p.1 :: q.1, q.2) := by
  rw [readItems, h]
  simp only
  cases read item with
  | error e => rfl
  | ok p =>
    show _ = (readItems read fuel false p.2).toOption.map _
    simp only
    cases readItems read fuel false p.2 <;> rfl

theorem readItems_items {read : Bytes → Except Fault (α × Bytes)} {decode : Value → Option α}
    (h : Reads read decode) {rest : Bytes} {items : List Item} (hb : ∀ i ∈ items, i.Blanks)
    (hs : ∀ i ∈ items, Spells i.value i.text) {first : Bool} {bs : Bytes} {fuel : Nat}
    (hat : AtItems rest first items bs) (hf : bs.length < fuel) :
    (readItems read fuel first bs).toOption.bind
        (fun p => (endList p.2).toOption.map (p.1, ·)) =
      ((items.map (·.value)).mapM decode).map (·, rest) := by
  induction items generalizing first bs fuel with
  | nil =>
    cases fuel with
    | zero => omega
    | succ fuel =>
      rw [readItems, hat.nextItem_end]
      show (endList bs).toOption.map _ = _
      rw [hat.endList_end]
      rfl
  | cons i items ih =>
    have hsi := hs i List.mem_cons_self
    obtain ⟨behind, hnext, hends, hat', hlt⟩ := hat.nextItem_item (hb i List.mem_cons_self) hsi
    have hread := h hsi areBlanks_nil hends
    rw [List.nil_append] at hread
    cases fuel with
    | zero => omega
    | succ fuel =>
      have ih' := ih (fun j hj => hb j (List.mem_cons_of_mem i hj))
        (fun j hj => hs j (List.mem_cons_of_mem i hj)) hat' (by omega : behind.length < fuel)
      rw [toOption_readItems hnext, hread, List.map_cons, List.mapM_cons]
      cases decode i.value with
      | none => rfl
      | some x =>
        have hx := congrArg (Option.map fun p => (x :: p.1, p.2)) ih'
        simpa [Option.map_eq_bind, Function.comp_def, Option.bind_assoc] using hx

theorem list?_of_ne {decode : Value → Option α} {v : Value} (h : ∀ items, v ≠ .array items) :
    v.list? decode = none := by
  cases v with
  | array items => exact absurd rfl (h items)
  | _ => rfl

theorem reads_list {read : Bytes → Except Fault (α × Bytes)} {decode : Value → Option α}
    (h : Reads read decode) : Reads (readList read) (Value.list? decode) := by
  intro v t hs b rest hb _
  have hskip := skipBlanks_value hs hb rest
  obtain ⟨x, xs, e, ho⟩ := hs.opens
  by_cases hx : x = 0x5b
  · obtain ⟨vs, rfl⟩ := ho.form.2.2.1 hx
    obtain ⟨items, bs, rfl, e', hat, hbs, hss⟩ := hs.items rest
    have key := readItems_items h hbs hss hat (Nat.lt_succ_self bs.length)
    rw [e'] at hskip
    rw [readList, hskip]
    simp only [if_true]
    show _ = ((items.map (·.value)).mapM decode).map (·, rest)
    rw [← key]
    cases readItems read (bs.length + 1) true bs with
    | error e => rfl
    | ok p => exact toOption_map (endList p.2) (p.1, ·)
  · have hv : ∀ items, v ≠ .array items := by
      rintro items rfl
      exact hx ho
    rw [e, List.cons_append] at hskip
    rw [readList, hskip, list?_of_ne hv]
    simp only [if_neg hx]
    rfl

/-! ### fields of texts and lists -/

namespace Field
variable {key : String} {x : α} {decode : Value → Option α}

theorem reads_text {required : Bool} {set : α → String → α}
    (h : ∀ v, v.text?.map (set x) = decode v) : Reads ((text key required set).read x) decode :=
  (Json.reads_text.map (set x)).congr h

theorem reads_optional {set : α → Option String → α}
    (h : ∀ v, v.optional?.map (set x) = decode v) : Reads ((optional key set).read x) decode :=
  (Json.reads_optional.map (set x)).congr h

theorem reads_list {β : Type} {read : Bytes → Except Fault (β × Bytes)} {element : Value → Option β}
    {set : α → List β → α} (hr : Reads read element)
    (h : ∀ v, (v.list? element).map (set x) = decode v) :
    Reads ((list key read set).read x) decode :=
  ((Json.reads_list hr).map (set x)).congr h

end Field

end ServiceDiagram.Json

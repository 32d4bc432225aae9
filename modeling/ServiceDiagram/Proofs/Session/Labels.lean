import ServiceDiagram.Proofs.Session.Choices
import ServiceDiagram.Proofs.Surroundings.Answers
import ServiceDiagram.Proofs.Surroundings.Makes
import ServiceDiagram.Proofs.Surroundings.Selecting

/-!
# Choosing by label

A label that is typed on a line of its own is taken for the first choice with that label, in whichever
case (`select_label`).  So a choice is picked by its own label exactly if no label in front of it is the
same but for the case of its letters; services whose names differ in case only are two services, and
the second one is not picked by its name.

* `Typable choices`                labels that can be typed, and are not taken for numbers;
* `BeginsWith input text left`     an input with a text on its first line.
-/

namespace ServiceDiagram

open Text

namespace Terminal

/-- **Labels that can be typed**: each may be a name, and none is the number of a choice. -/
structure Typable (choices : List String) : Prop where
  word : ∀ c ∈ choices, Word c
  unnumbered : ∀ c ∈ choices, ∀ n, Spells c n → ¬ (1 ≤ n ∧ n ≤ choices.length)

instance (choices : List String) : Decidable (Typable choices) :=
  decidable_of_iff (∀ c ∈ choices, Word c ∧ numbered? choices c = none)
    ⟨fun h => ⟨fun c hc => (h c hc).1, fun c hc => numbered?_eq_none_iff.mp (h c hc).2⟩,
      fun h c hc => ⟨h.word c hc, numbered?_eq_none_iff.mpr (h.unnumbered c hc)⟩⟩

/-- **An input begins with a text on a line of its own**; at the end of the input the line feed may be
missing. -/
def BeginsWith (input : Bytes) (text : String) (left : Bytes) : Prop :=
  input = encode text ++ 0x0a :: left ∨ (input = encode text ∧ left = [])

variable {input left : Bytes} {text label : String} {choices : List String} {i j : Nat}

/-! ### lines -/

theorem lineFeed_not_mem_encode (h : OneLine text) : 0x0a ∉ encode text := by
  rw [Json.encode_eq_utf8]
  intro hm
  obtain ⟨c, hc, hb⟩ := List.mem_flatMap.mp hm
  by_cases hascii : c.toNat < 0x80
  · rw [Json.utf8EncodeChar_ascii hascii, List.mem_singleton] at hb
    have hnat : c.toNat = '\n'.toNat := by
      rw [← Json.toNat_ascii hascii, ← hb]
      rfl
    rw [Char.toNat_inj.mp hnat] at hc
    exact h hc
  · have hle := Json.le_of_mem_utf8EncodeChar (Nat.le_of_not_lt hascii) hb
    exact absurd hle (by decide)

theorem cutLines_lineFeed {current line : Bytes} (h : 0x0a ∉ line) (left : Bytes) :
    cutLines current (line ++ 0x0a :: left) =
      (current.reverse ++ line ++ [0x0a]) :: cutLines [] left := by
  induction line generalizing current with
  | nil =>
    rw [List.nil_append, cutLines, if_pos rfl, List.reverse_cons, List.append_nil]
  | cons b line ih =>
    rw [List.mem_cons, not_or] at h
    rw [List.cons_append, cutLines, if_neg (Ne.symm h.1), ih h.2, List.reverse_cons]
    simp only [List.append_assoc, List.cons_append, List.nil_append]

theorem cutLines_of_not_mem {current line : Bytes} (h : 0x0a ∉ line) (hne : current ++ line ≠ []) :
    cutLines current line = [current.reverse ++ line] := by
  induction line generalizing current with
  | nil =>
    rw [List.append_nil] at hne ⊢
    rw [cutLines, if_neg (by rwa [List.isEmpty_iff])]
  | cons b line ih =>
    rw [List.mem_cons, not_or] at h
    rw [cutLines, if_neg (Ne.symm h.1), ih h.2 (List.cons_ne_nil b _), List.reverse_cons,
      List.append_assoc, List.singleton_append]

theorem BeginsWith.answer? (hb : BeginsWith input text left) (hw : Word text) :
    ∃ line, cutLines [] input = line :: cutLines [] left ∧ answer? line = some text := by
  have hfeed : 0x0a ∉ encode text := lineFeed_not_mem_encode hw.oneLine
  rcases hb with rfl | ⟨rfl, rfl⟩
  · refine ⟨encode text ++ [0x0a], cutLines_lineFeed hfeed left, ?_⟩
    have hline : encode text ++ [0x0a] = encode (text ++ "\n") := by
      rw [Json.encode_eq_utf8, Json.encode_eq_utf8, String.toList_append, Json.utf8_append]
      rfl
    have htrim : trim (text ++ "\n") = text := by
      have hchars : trimChars (text ++ "\n").toList = trimChars text.toList := by
        rw [String.toList_append]
        exact trimChars_concat (c := '\n') (by decide)
      rw [trim, hchars]
      exact hw.trimmed
    rw [Terminal.answer?, hline, decode?_encode, Option.map_some, htrim]
  · have hne : encode text ≠ [] := by
      intro he
      exact hw.nonempty (encode_injective (he.trans rfl))
    refine ⟨encode text, cutLines_of_not_mem hfeed hne, ?_⟩
    rw [Terminal.answer?, decode?_encode, Option.map_some, hw.trimmed]

/-! ### labels -/

theorem SameLabel.refl (label : String) : SameLabel label label := sameLabel_iff.mp (beq_self_eq_true _)

theorem FirstLabel.unique (hi : FirstLabel choices label i) (hj : FirstLabel choices label j) : i = j :=
  Option.some_inj.mp ((findIdx?_eq_some_iff.mpr hi).symm.trans (findIdx?_eq_some_iff.mpr hj))

theorem firstLabel_iff (hi : choices[i]? = some label) :
    FirstLabel choices label i ↔ ∀ c ∈ choices.take i, ¬ SameLabel c label :=
  ⟨fun h => h.others, fun h => ⟨⟨label, hi, .refl label⟩, h⟩⟩

/-- **A label is taken for the first choice that has it**, in whichever case. -/
theorem select_label (hl : Typable choices) (hmem : label ∈ choices)
    (hb : BeginsWith input label left) (message : String) (default : Nat) (shown : List Shown) :
    ∃ j, FirstLabel choices label j ∧
      select message choices default ⟨cutLines [] input, shown⟩ =
        (.ok j, ⟨cutLines [] left, shown ++ [.menu message choices default]⟩) := by
  have hw : Word label := hl.word label hmem
  obtain ⟨line, hlines, hanswer⟩ := hb.answer? hw
  have hacceptable : Acceptable choices label := Or.inr (Or.inr ⟨label, hmem, .refl label⟩)
  obtain ⟨j, hmeans⟩ := (acceptable_iff default).mp hacceptable
  -- a label is neither blank nor the number of a choice
  have hfirst : FirstLabel choices label j := by
    cases hmeans with
    | preset h => exact absurd h hw.nonempty
    | number h hj => exact absurd ⟨Nat.succ_pos j, hj⟩ (hl.unnumbered label hmem _ h)
    | label _ _ h => exact h
  refine ⟨j, hfirst, ?_⟩
  unfold select
  simp only [hlines, selectFrom, settle?, hanswer, choice?_eq_some_iff.mpr hmeans, Option.map_some]

/-- **A choice is picked by its own label exactly if no label in front of it is the same**, in whichever
case. -/
theorem select_eq_iff (hl : Typable choices) (hi : choices[i]? = some label)
    (hb : BeginsWith input label left) (message : String) (default : Nat) (shown : List Shown) :
    select message choices default ⟨cutLines [] input, shown⟩ =
        (.ok i, ⟨cutLines [] left, shown ++ [.menu message choices default]⟩) ↔
      ∀ c ∈ choices.take i, ¬ SameLabel c label := by
  obtain ⟨j, hfirst, hselect⟩ :=
    select_label hl (List.mem_of_getElem? hi) hb message default shown
  rw [hselect, ← firstLabel_iff hi]
  constructor
  · intro h
    obtain rfl : j = i := Except.ok.inj (Prod.mk.inj h).1
    exact hfirst
  · intro h
    rw [hfirst.unique h]

end Terminal

/-! ### services -/

namespace Session

open Terminal

variable {σ φ : Type} {e : Editor} {i : Nat} {t : Service}

def serviceChoices (c : Context) : List String := c.serviceNames ++ [ServiceAction.back.label]

theorem serviceChoices_take (ht : e.context.services[i]? = some t) :
    (serviceChoices e.context)[i]? = some t.name ∧
      (serviceChoices e.context).take i = e.context.serviceNames.take i := by
  obtain ⟨hi, rfl⟩ := List.getElem?_eq_some_iff.mp ht
  have hlt : i < e.context.serviceNames.length := by rwa [Context.serviceNames, List.length_map]
  refine ⟨?_, List.take_append_of_le_length hlt.le⟩
  rw [serviceChoices, List.getElem?_append_left hlt, Context.serviceNames, List.getElem?_map, ht]
  rfl

/-- a service is the first one with its name if no name in front of it is the same, in whichever case -/
theorem isFirst_of_apart (ht : e.context.services[i]? = some t)
    (hapart : ∀ c ∈ e.context.serviceNames.take i, ¬ SameLabel c t.name) :
    Context.IsFirst e.context.services i t := by
  refine ⟨ht, fun j u hj hu he => ?_⟩
  have hname : e.context.serviceNames[j]? = some u.name := by
    rw [Context.serviceNames, List.getElem?_map, hu]
    rfl
  have hmem : u.name ∈ e.context.serviceNames.take i :=
    List.mem_of_getElem? ((List.getElem?_take_of_lt hj).trans hname)
  exact hapart _ hmem (he ▸ .refl u.name)

theorem makes_named (file : String) (storage : Storage σ) (fetcher : Fetcher φ)
    {w : World Terminal σ φ} {input left : Bytes} (hl : Typable (serviceChoices e.context))
    (ht : e.context.services[i]? = some t)
    (hapart : ∀ c ∈ e.context.serviceNames.take i, ¬ SameLabel c t.name)
    (hlines : w.user.lines = cutLines [] input) (hb : BeginsWith input t.name left) :
    let question := "Which service do you want to manage?"
    (Surroundings.mk prompter storage fetcher).Makes (Turn.request file) (Turn.resume file)
      (.next ⟨e, .service⟩) w [.select question (serviceChoices e.context) 0]
      (.next ⟨e, .action t.name⟩)
      { w with user := ⟨cutLines [] left,
        w.user.shown ++ [.menu question (serviceChoices e.context) 0]⟩ } := by
  intro question
  obtain ⟨hchoice, htake⟩ := serviceChoices_take ht
  have hselect : select question (serviceChoices e.context) 0 w.user =
      (.ok i, ⟨cutLines [] left, w.user.shown ++ [.menu question (serviceChoices e.context) 0]⟩) := by
    have hiff := select_eq_iff hl hchoice hb question 0 w.user.shown
    rw [htake, ← hlines] at hiff
    exact hiff.mpr hapart
  have hanswer := congrArg Prod.fst hselect
  have huser := congrArg (fun reply => { w with user := reply.2 }) hselect
  have hresume := congrArg (Turn.resume file ⟨e, .service⟩) hanswer
  exact .first_eq (hresume.trans (afterService_entry ht)) huser

/-- **A label picks its own choice exactly if no label in front of it is the same**, in whichever case.
So it is with services: one whose name differs from those in front of it in more than the case of
letters is chosen by its name, and it is the one that is changed. -/
theorem labels_pick :
    (∀ {choices : List String} {label : String} {i : Nat} {input left : Bytes},
      Typable choices → choices[i]? = some label → BeginsWith input label left →
      ∀ (message : String) (default : Nat) (shown : List Shown),
        select message choices default ⟨cutLines [] input, shown⟩ =
            (.ok i, ⟨cutLines [] left, shown ++ [.menu message choices default]⟩) ↔
          ∀ c ∈ choices.take i, ¬ SameLabel c label) ∧
    (∀ {σ φ : Type} (file : String) (storage : Storage σ) (fetcher : Fetcher φ)
      {w : World Terminal σ φ} {e : Editor} {i : Nat} {t : Service} {input left : Bytes},
      Typable (serviceChoices e.context) → e.context.services[i]? = some t →
      (∀ c ∈ e.context.serviceNames.take i, ¬ SameLabel c t.name) →
      w.user.lines = cutLines [] input → BeginsWith input t.name left →
      (∃ user : Terminal, user.lines = cutLines [] left ∧
        (Surroundings.mk prompter storage fetcher).Makes (Turn.request file) (Turn.resume file)
          (.next ⟨e, .service⟩) w [Turn.request file ⟨e, .service⟩] (.next ⟨e, .action t.name⟩)
          { w with user := user }) ∧
        e.context.find? t.name = some t ∧
        ∀ f, e.edit t.name f = (true, { e with context := { e.context with
          services := e.context.services.set i (f t) } })) := by
  refine ⟨fun hl hi hb => select_eq_iff hl hi hb, ?_⟩
  intro σ φ file storage fetcher w e i t input left hl ht hapart hlines hb
  have hfirst : Context.IsFirst e.context.services i t := isFirst_of_apart ht hapart
  exact ⟨⟨_, rfl, makes_named file storage fetcher hl ht hapart hlines hb⟩, hfirst.find?,
    (edit_entry_iff ht).mp hfirst⟩

/-- the second of two services, whose name is typed without a line feed behind it -/
theorem labels_pick_second :
    let choices := ["Order", "Invoice", "Back"]
    let input := encode "Invoice"
    let e : Editor := ⟨⟨"Orders", .rest, [.new "Order", .new "Invoice"]⟩, .managing⟩
    let w : World Terminal Memory Fetched := ⟨.new input, .ofFiles [], .none⟩
    select "Which?" choices 0 ⟨cutLines [] input, []⟩ =
        (.ok 1, ⟨cutLines [] [], [.menu "Which?" choices 0]⟩) ∧
      ∃ user : Terminal, user.lines = cutLines [] [] ∧
        (Surroundings.mk prompter Memory.storage Fetched.unreachable).Makes
          (Turn.request "data.json") (Turn.resume "data.json") (.next ⟨e, .service⟩) w
          [Turn.request "data.json" ⟨e, .service⟩] (.next ⟨e, .action "Invoice"⟩)
          { w with user := user } := by
  intro choices input e w
  have hl : Typable choices := by decide
  have hservices : Typable (serviceChoices e.context) := by decide
  have hservice : e.context.services[1]? = some (.new "Invoice") := rfl
  have hb : BeginsWith input "Invoice" [] := Or.inr ⟨rfl, rfl⟩
  have hpick := labels_pick.1 hl (i := 1) rfl hb "Which?" 0 []
  obtain ⟨hmakes, -⟩ := labels_pick.2 "data.json" Memory.storage Fetched.unreachable (w := w)
    hservices hservice (by decide) rfl hb
  exact ⟨hpick.mpr (by decide), hmakes⟩

/-- **A label is not picked if the same one in another case stands in front of it.**  The labels of
these choices are distinct, and so are the names of the services; the first one is chosen and changed. -/
theorem label_shadowed :
    let c : Context := ⟨"Orders", .grpc, [.new "A", .new "a"]⟩
    let files := Memory.ofFiles [("data.json", Document.write c)]
    let s : Surroundings Terminal Memory Fetched :=
      ⟨Terminal.prompter, Memory.storage, Fetched.unreachable⟩
    let t := Terminal.new (encode "3\na\n2\nX\n4\n4\n")
    ["A", "a"].Nodup ∧ Typable ["A", "a"] ∧ BeginsWith (encode "a\n") "a" [] ∧
      (select "Which?" ["A", "a"] 0 (.new (encode "a\n"))).1 = .ok 0 ∧
      c.serviceNames.Nodup ∧ Typable (serviceChoices c) ∧
      (turns s "data.json" t.fuel 2 0 (.new c) ⟨t, files, .none⟩).2.1 =
        ⟨{ c with services := [⟨"A", none, some "X", []⟩, .new "a"] }, .closed⟩ := by
  intro c files s t
  exact ⟨by decide, by decide, Or.inl rfl, rfl, by decide, by decide, by decide +kernel⟩

end Session

end ServiceDiagram

import Mathlib.Data.List.Forall2
import ServiceDiagram.Proofs.Text.Hex
import ServiceDiagram.Surroundings.Terminal

/-!
# What an answer means for a choice

`Means choices default answer i` says that an answer means the choice at position `i`: nothing at all is
the default, a number stands for a position, and anything else for the first choice with that label.
This is what a terminal makes of an answer (`choice?_eq_some_iff`), and it is what it takes
(`acceptable_iff`).

* `Spells s n`       a text is a decimal number of 64 bits, perhaps with a plus in front;
* `SameLabel s t`    two texts are the same but for the case of ASCII letters;
* `Acceptable`       an answer that means something.
-/

namespace ServiceDiagram.Terminal

/-! ### numbers -/

/-- **A number of 64 bits in decimal digits**, perhaps with a plus in front -/
def Spells (s : String) (n : Nat) : Prop :=
  ∃ digits : List Char, (s.toList = digits ∨ s.toList = '+' :: digits) ∧ digits ≠ [] ∧
    (∀ c ∈ digits, c.isDigit) ∧ n = Text.ofDigits 10 digits ∧ n < UInt64.size

theorem appendDigit?_eq_some_iff {n m : Nat} {c : Char} :
    appendDigit? n c = some m ↔ c.isDigit ∧ m = 10 * n + (c.toNat - 48) := by
  unfold appendDigit?
  split
  · next h => rw [Option.some_inj, eq_comm, and_iff_right h]
  · next h => exact ⟨nofun, fun hm => absurd hm.1 h⟩

theorem hexValue?_of_isDigit {c : Char} (h : c.isDigit) : Text.hexValue? c = some (c.toNat - 48) := by
  have hrange : '0' ≤ c ∧ c ≤ '9' := Char.isDigit_iff_toNat.mp h
  unfold Text.hexValue?
  rw [if_pos hrange]

theorem foldlM_appendDigit? {digits : List Char} {n m : Nat} :
    digits.foldlM appendDigit? n = some m ↔ (∀ c ∈ digits, c.isDigit) ∧
      m = digits.foldl (fun n c => 10 * n + (Text.hexValue? c).getD 0) n := by
  induction digits generalizing n with
  | nil =>
    rw [List.foldlM_nil, List.foldl_nil, and_iff_right (List.forall_mem_nil _), eq_comm]
    exact Option.some_inj
  | cons c digits ih =>
    rw [List.foldlM_cons, Option.bind_eq_bind, Option.bind_eq_some_iff, List.forall_mem_cons,
      List.foldl_cons]
    constructor
    · rintro ⟨k, hk, hrest⟩
      obtain ⟨hc, rfl⟩ := appendDigit?_eq_some_iff.mp hk
      obtain ⟨hdigits, rfl⟩ := ih.mp hrest
      rw [hexValue?_of_isDigit hc, Option.getD_some]
      exact ⟨⟨hc, hdigits⟩, rfl⟩
    · rintro ⟨⟨hc, hdigits⟩, rfl⟩
      refine ⟨_, appendDigit?_eq_some_iff.mpr ⟨hc, rfl⟩, ih.mpr ⟨hdigits, ?_⟩⟩
      rw [hexValue?_of_isDigit hc, Option.getD_some]

theorem decimal?_eq_some_iff {digits : List Char} {n : Nat} :
    decimal? digits = some n ↔ digits ≠ [] ∧ (∀ c ∈ digits, c.isDigit) ∧
      n = Text.ofDigits 10 digits ∧ n < UInt64.size := by
  unfold decimal?
  cases digits with
  | nil => exact ⟨nofun, fun h => absurd rfl h.1⟩
  | cons c digits =>
    have hne : ¬ (c :: digits).isEmpty := Bool.false_ne_true
    rw [if_neg hne, Option.filter_eq_some_iff, foldlM_appendDigit?, decide_eq_true_iff, and_assoc]
    exact (and_iff_right (List.cons_ne_nil c digits)).symm

/-- **What is read as a number is spelled as one.** -/
theorem number?_eq_some_iff {s : String} {n : Nat} : number? s = some n ↔ Spells s n := by
  unfold number? Spells
  split
  · next digits hs =>
    rw [decimal?_eq_some_iff, hs]
    constructor
    · rintro ⟨hne, hdigits⟩
      exact ⟨digits, Or.inr rfl, hne, hdigits⟩
    · rintro ⟨ds, rfl | hds, hne, hdigits⟩
      · -- a plus is no digit
        exact absurd (hdigits.1 '+' List.mem_cons_self) (by decide)
      · obtain rfl := (List.cons.inj hds).2
        exact ⟨hne, hdigits⟩
  · next hs =>
    rw [decimal?_eq_some_iff]
    constructor
    · rintro ⟨hne, hdigits⟩
      exact ⟨s.toList, Or.inl rfl, hne, hdigits⟩
    · rintro ⟨ds, rfl | hds, hne, hdigits⟩
      · exact ⟨hne, hdigits⟩
      · exact absurd hds (hs ds)

/-! ### labels -/

def SameLetter (c d : Char) : Prop :=
  c = d ∨ (c.isUpper ∧ d.toNat = c.toNat + 32) ∨ (d.isUpper ∧ c.toNat = d.toNat + 32)

/-- **The same label but for the case of ASCII letters** -/
def SameLabel (s t : String) : Prop := List.Forall₂ SameLetter s.toList t.toList

theorem isUpper_iff {c : Char} : c.isUpper ↔ 65 ≤ c.toNat ∧ c.toNat ≤ 90 := decide_eq_true_iff

theorem toLower_eq_iff {c d : Char} : c.toLower = d.toLower ↔ SameLetter c d := by
  unfold SameLetter
  rw [← Char.toNat_inj, Text.toNat_toLower, Text.toNat_toLower, ← Char.toNat_inj, isUpper_iff, isUpper_iff]
  split <;> split <;> omega

theorem sameLabel_iff {s t : String} : sameLabel s t ↔ SameLabel s t := by
  unfold sameLabel SameLabel
  rw [beq_iff_eq, ← List.forall₂_eq_eq_eq, List.forall₂_map_left_iff, List.forall₂_map_right_iff]
  simp only [toLower_eq_iff]

instance (s t : String) : Decidable (SameLabel s t) := decidable_of_iff _ sameLabel_iff

/-- **The first choice with a label**, in whichever case -/
structure FirstLabel (choices : List String) (answer : String) (i : Nat) : Prop where
  label : ∃ label, choices[i]? = some label ∧ SameLabel label answer
  others : ∀ c ∈ choices.take i, ¬ SameLabel c answer

variable {choices : List String} {default i : Nat} {answer : String}

theorem findIdx?_eq_some_iff :
    choices.findIdx? (sameLabel · answer) = some i ↔ FirstLabel choices answer i := by
  rw [List.findIdx?_eq_some_iff_getElem]
  constructor
  · rintro ⟨hi, hsame, hothers⟩
    refine ⟨⟨choices[i], List.getElem?_eq_getElem hi, sameLabel_iff.mp hsame⟩, fun c hc h => ?_⟩
    obtain ⟨j, hj, rfl⟩ := List.mem_take_iff_getElem.mp hc
    exact hothers j (Nat.lt_of_lt_of_le hj (Nat.min_le_left ..)) (sameLabel_iff.mpr h)
  · rintro ⟨⟨label, hlabel, hsame⟩, hothers⟩
    obtain ⟨hi, rfl⟩ := List.getElem?_eq_some_iff.mp hlabel
    refine ⟨hi, sameLabel_iff.mpr hsame, fun j hj h => ?_⟩
    have hmem : choices[j] ∈ choices.take i :=
      List.mem_take_iff_getElem.mpr ⟨j, Nat.lt_min.mpr ⟨hj, Nat.lt_trans hj hi⟩, rfl⟩
    exact hothers _ hmem (sameLabel_iff.mp h)

/-! ### answers -/

/-- **What an answer means**: nothing is the default, then come the numbers, and then the labels. -/
inductive Means (choices : List String) (default : Nat) (answer : String) : Nat → Prop
  | preset (h : answer = "") : Means choices default answer default
  | number {i : Nat} (h : Spells answer (i + 1)) (hi : i < choices.length) :
      Means choices default answer i
  | label {i : Nat} (hne : answer ≠ "")
      (hnumber : ∀ n, Spells answer n → ¬ (1 ≤ n ∧ n ≤ choices.length))
      (h : FirstLabel choices answer i) : Means choices default answer i

/-- **An answer that is taken** -/
def Acceptable (choices : List String) (answer : String) : Prop :=
  answer = "" ∨ (∃ n, Spells answer n ∧ 1 ≤ n ∧ n ≤ choices.length) ∨
    ∃ c ∈ choices, SameLabel c answer

theorem not_spells_empty (n : Nat) : ¬ Spells "" n := by
  rintro ⟨digits, h | h, hne, -⟩
  · exact hne h.symm
  · cases h

theorem numbered?_eq_some_iff :
    numbered? choices answer = some i ↔ Spells answer (i + 1) ∧ i < choices.length := by
  unfold numbered?
  rw [← number?_eq_some_iff]
  cases number? answer with
  | none => exact ⟨nofun, fun h => nomatch h.1⟩
  | some n =>
    simp only [Option.some_inj]
    split
    · next hn =>
      rw [Option.some_inj]
      omega
    · next hn => exact ⟨nofun, fun h => absurd (by omega) hn⟩

theorem numbered?_eq_none_iff :
    numbered? choices answer = none ↔
      ∀ n, Spells answer n → ¬ (1 ≤ n ∧ n ≤ choices.length) := by
  rw [Option.eq_none_iff_forall_ne_some]
  constructor
  · rintro h n hn ⟨hpos, hle⟩
    obtain ⟨i, rfl⟩ := Nat.exists_eq_add_of_le' hpos
    exact h i (numbered?_eq_some_iff.mpr ⟨hn, hle⟩)
  · intro h i hi
    obtain ⟨hspells, hlt⟩ := numbered?_eq_some_iff.mp hi
    exact h (i + 1) hspells ⟨Nat.succ_pos i, hlt⟩

/-- **A terminal takes an answer for what it means.** -/
theorem choice?_eq_some_iff :
    choice? choices default answer = some i ↔ Means choices default answer i := by
  unfold choice?
  by_cases he : answer.isEmpty
  · rw [if_pos he, Option.some_inj]
    obtain rfl := String.isEmpty_iff.mp he
    constructor
    · rintro rfl
      exact .preset rfl
    · intro h
      cases h with
      | preset => rfl
      | number h => exact absurd h (not_spells_empty _)
      | label hne => exact absurd rfl hne
  · have hne : answer ≠ "" := fun h => he (String.isEmpty_iff.mpr h)
    rw [if_neg he, Option.or_eq_some_iff, numbered?_eq_some_iff, numbered?_eq_none_iff,
      findIdx?_eq_some_iff]
    constructor
    · rintro (⟨hspells, hi⟩ | ⟨hnumber, hfirst⟩)
      · exact .number hspells hi
      · exact .label hne hnumber hfirst
    · intro h
      cases h with
      | preset h => exact absurd h hne
      | number h hi => exact Or.inl ⟨h, hi⟩
      | label _ hnumber h => exact Or.inr ⟨hnumber, h⟩

/-- **An answer is taken if it means something.** -/
theorem acceptable_iff (default : Nat) :
    Acceptable choices answer ↔ ∃ i, Means choices default answer i := by
  constructor
  · intro h
    by_cases he : answer = ""
    · exact ⟨default, .preset he⟩
    by_cases hnumber : ∃ n, Spells answer n ∧ 1 ≤ n ∧ n ≤ choices.length
    · obtain ⟨n, hn, hpos, hle⟩ := hnumber
      obtain ⟨i, rfl⟩ := Nat.exists_eq_add_of_le' hpos
      exact ⟨i, .number hn hle⟩
    obtain ⟨c, hc, hsame⟩ := (h.resolve_left he).resolve_left hnumber
    have hsome : (choices.findIdx? (sameLabel · answer)).isSome := by
      rw [List.findIdx?_isSome, List.any_eq_true]
      exact ⟨c, hc, sameLabel_iff.mpr hsame⟩
    obtain ⟨i, hi⟩ := Option.isSome_iff_exists.mp hsome
    exact ⟨i, .label he (fun n hn hrange => hnumber ⟨n, hn, hrange⟩) (findIdx?_eq_some_iff.mp hi)⟩
  · rintro ⟨i, h⟩
    cases h with
    | preset h => exact Or.inl h
    | number h hi => exact Or.inr (Or.inl ⟨i + 1, h, Nat.succ_pos i, hi⟩)
    | label _ _ h =>
      obtain ⟨label, hlabel, hsame⟩ := h.label
      exact Or.inr (Or.inr ⟨label, List.mem_of_getElem? hlabel, hsame⟩)

end ServiceDiagram.Terminal

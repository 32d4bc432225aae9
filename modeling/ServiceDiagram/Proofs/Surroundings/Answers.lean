import ServiceDiagram.Proofs.Surroundings.Questions
import ServiceDiagram.Proofs.Text.Trimmed

/-!
# What can be typed at a terminal

A line of the input has its line feed at the end if it has one, so what is left of it when it is
trimmed is one line.  The answer to a question is such a text, or the default if nothing is left
(`input_typed`).

* `IsLine`            bytes that may be a line of an input;
* `Terminal.Cut`      a terminal with such lines, as every terminal is that was given its input;
* `Text.Word`         a trimmed text of one line that is not empty;
* `Request.Typed`     an answer to a request as a terminal gives it.
-/

namespace ServiceDiagram

open Text

/-- a text that may be a name: one line, trimmed and not empty -/
structure Text.Word (s : String) : Prop where
  oneLine : OneLine s
  trimmed : Trimmed s
  nonempty : s ≠ ""

instance (s : String) : Decidable (Word s) :=
  decidable_of_iff (OneLine s ∧ Trimmed s ∧ s ≠ "")
    ⟨fun h => ⟨h.1, h.2.1, h.2.2⟩, fun h => ⟨h.oneLine, h.trimmed, h.nonempty⟩⟩

/-- what is typed is the default, or may be a name -/
def Request.Typed : (r : Request) → r.Answer → Prop
  | .input _ default, answer => answer = default ∨ Word answer
  | _, _ => True

theorem Request.Typed.oneLine {message default answer : String}
    (h : (Request.input message default).Typed answer) (hdefault : OneLine default) :
    OneLine answer := by
  rcases h with rfl | h
  · exact hdefault
  · exact h.oneLine

def IsLine (line : Bytes) : Prop := 0x0a ∉ line.dropLast

namespace Terminal

/-! ### lines -/

theorem isLine_of_not_mem {line : Bytes} (h : 0x0a ∉ line) : IsLine line :=
  fun hm => h (List.dropLast_subset line hm)

theorem isLine_lineFeed {line : Bytes} (h : 0x0a ∉ line) : IsLine (line ++ [0x0a]) := by
  unfold IsLine
  rw [List.dropLast_concat]
  exact h

theorem isLine_of_mem_cutLines {line : Bytes} (h : 0x0a ∉ line) {input l : Bytes}
    (hl : l ∈ cutLines line input) : IsLine l := by
  induction input generalizing line with
  | nil =>
    rw [cutLines] at hl
    split at hl
    · cases hl
    · rw [List.mem_singleton.mp hl]
      exact isLine_of_not_mem (by rwa [List.mem_reverse])
  | cons b input ih =>
    rw [cutLines] at hl
    split at hl
    · next hb =>
      rcases List.mem_cons.mp hl with rfl | hl
      · rw [List.reverse_cons, hb]
        exact isLine_lineFeed (by rwa [List.mem_reverse])
      · exact ih List.not_mem_nil hl
    · next hb =>
      refine ih ?_ hl
      rw [List.mem_cons, not_or]
      exact ⟨Ne.symm hb, h⟩

def Cut (t : Terminal) : Prop := ∀ line ∈ t.lines, IsLine line

theorem cut_new (input : Bytes) : (new input).Cut :=
  fun _ hl => isLine_of_mem_cutLines List.not_mem_nil hl

/-! ### answers -/

/-- **The text of a line is one line, and trimmed.** -/
theorem answer?_typed {line : Bytes} (hl : IsLine line) {answer : String}
    (h : answer? line = some answer) : OneLine answer ∧ Trimmed answer := by
  obtain ⟨s, hs, rfl⟩ := Option.map_eq_some_iff.mp h
  refine ⟨fun hm => ?_, trimmed_trim s⟩
  rw [toList_trim] at hm
  obtain ⟨front, back, hcs, hne⟩ := lineFeed_mem_trimChars hm
  have hline : line = Json.utf8 front ++ 0x0a :: Json.utf8 back := by
    rw [← encode_of_decode? hs, Json.encode_eq_utf8, hcs, Json.utf8_append,
      Json.utf8_cons_ascii (by decide)]
    rfl
  have hback : Json.utf8 back ≠ [] := by
    cases back with
    | nil => exact absurd rfl hne
    | cons c back =>
      rw [Json.utf8_cons]
      exact List.append_ne_nil_of_left_ne_nil String.utf8EncodeChar_ne_nil _
  refine hl ?_
  rw [hline, List.dropLast_append_cons, List.dropLast_cons_of_ne_nil hback]
  exact List.mem_append_right _ List.mem_cons_self

/-- **An answer is the default, or what may be a name.** -/
theorem input_typed {message default answer : String} {t : Terminal} (ht : t.Cut)
    (h : (input message default t).1 = .ok answer) : answer = default ∨ Word answer := by
  obtain ⟨lines, shown⟩ := t
  cases lines with
  | nil => cases h
  | cons line rest =>
    have hline : IsLine line := ht line List.mem_cons_self
    unfold input at h
    simp only at h
    split at h
    · cases h
    · next a ha =>
      have hanswer := Except.ok.inj h
      obtain ⟨honeLine, htrimmed⟩ := answer?_typed hline ha
      by_cases hempty : a.isEmpty
      · rw [if_pos hempty] at hanswer
        exact Or.inl hanswer.symm
      · rw [if_neg hempty] at hanswer
        rw [← hanswer]
        exact Or.inr ⟨honeLine, htrimmed, fun he => hempty (String.isEmpty_iff.mpr he)⟩

/-! ### requests at a terminal -/

theorem input_cut (message default : String) {t : Terminal} (ht : t.Cut) :
    (input message default t).2.Cut := by
  obtain ⟨lines, shown⟩ := t
  cases lines with
  | nil => exact ht
  | cons line rest =>
    have hrest : ∀ l ∈ rest, IsLine l := fun l hl => ht l (List.mem_cons_of_mem line hl)
    unfold input
    simp only
    split <;> exact hrest

theorem selectFrom_cut (message : String) (choices : List String) (preset : Nat)
    {lines : List Bytes} (hl : ∀ l ∈ lines, IsLine l) (shown : List Shown) :
    (selectFrom message choices preset lines shown).2.Cut := by
  induction lines generalizing shown with
  | nil => exact hl
  | cons line rest ih =>
    have hrest : ∀ l ∈ rest, IsLine l := fun l h => hl l (List.mem_cons_of_mem line h)
    rw [selectFrom]
    split
    · exact hrest
    · exact ih hrest _

theorem reply_cut {σ φ : Type} (storage : Storage σ) (fetcher : Fetcher φ) (r : Request)
    {w : World Terminal σ φ} (hw : w.user.Cut) :
    ((surroundings storage fetcher).reply w r).2.user.Cut := by
  cases r with
  | input message default => exact input_cut message default hw
  | select message choices preset => exact selectFrom_cut message choices preset hw _
  | _ => exact hw

/-- **All answers at a terminal are typed.** -/
theorem reply_typed {σ φ : Type} (storage : Storage σ) (fetcher : Fetcher φ) (r : Request)
    {w : World Terminal σ φ} (hw : w.user.Cut) {answer : r.Answer}
    (h : ((surroundings storage fetcher).reply w r).1 = .ok answer) : r.Typed answer := by
  cases r with
  | input message default => exact input_typed hw h
  | _ => trivial

end Terminal

end ServiceDiagram

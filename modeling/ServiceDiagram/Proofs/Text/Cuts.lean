import ServiceDiagram.Diagram
import ServiceDiagram.Text.Parts

/-!
# Cutting texts

A text is cut in one way only at a character that its first part does not have (`cut_inj`).  So the
lines of a text are told by the text, if each is on one line (`unlines_inj`), and lists of lines are
told by the lines between them (`fenced_inj`).
-/

namespace ServiceDiagram.Text

variable {α : Type}

/-! ### lists -/

section
variable [DecidableEq α] {sep : α}

theorem cut_inj {front front' back back' : List α} (hf : sep ∉ front) (hf' : sep ∉ front')
    (h : front ++ sep :: back = front' ++ sep :: back') : front = front' ∧ back = back' := by
  have hparts := congrArg (parts sep) h
  rw [parts_append_sep back hf, parts_append_sep back' hf'] at hparts
  obtain rfl := (List.cons.inj hparts).1
  exact ⟨rfl, (List.cons.inj (List.append_cancel_left h)).2⟩

theorem parts_append (as bs : List α) :
    parts sep (as ++ sep :: bs) = parts sep as ++ parts sep bs := by
  induction as with
  | nil => exact parts_sep sep bs
  | cons a as ih =>
    rw [List.cons_append, parts, parts, ih]
    cases hparts : parts sep as with
    | nil => exact absurd hparts (parts_ne_nil sep as)
    | cons part more =>
      split
      · rfl
      · rfl

theorem parts_fenced {β : Type} (f : β → List α) {front : List α} {bs : List β}
    (hfront : sep ∉ front) (hf : ∀ b ∈ bs, sep ∉ f b) :
    parts sep (front ++ bs.flatMap fun b => sep :: f b) = front :: bs.map f := by
  induction bs generalizing front with
  | nil => rw [List.flatMap_nil, List.append_nil, parts_of_not_mem hfront, List.map_nil]
  | cons b bs ih =>
    rw [List.forall_mem_cons] at hf
    rw [List.flatMap_cons, List.cons_append, parts_append_sep _ hfront, ih hf.1 hf.2, List.map_cons]

theorem fenced_inj {β : Type} (f : β → List α) {bs bs' : List β} (hf : ∀ b ∈ bs, sep ∉ f b)
    (hf' : ∀ b ∈ bs', sep ∉ f b)
    (h : (bs.flatMap fun b => sep :: f b) = bs'.flatMap fun b => sep :: f b) :
    bs.map f = bs'.map f := by
  have hparts := congrArg (parts sep) h
  have hnil : sep ∉ [] := List.not_mem_nil
  rw [← List.nil_append (bs.flatMap _), ← List.nil_append (bs'.flatMap _),
    parts_fenced f hnil hf, parts_fenced f hnil hf'] at hparts
  exact (List.cons.inj hparts).2

end

/-- an element that may stand in front of a list is told by the whole, if the lists cannot begin with
one like it -/
theorem front_inj {o o' : Option α} {as as' : List α} (ho : ∀ a, o = some a → a ∉ as')
    (ho' : ∀ a, o' = some a → a ∉ as) (h : o.toList ++ as = o'.toList ++ as') : o = o' ∧ as = as' := by
  cases o with
  | none =>
    cases o' with
    | none => exact ⟨rfl, h⟩
    | some a' =>
      have hmem : a' ∈ as := by
        rw [Option.toList_none, List.nil_append] at h
        rw [h]
        exact List.mem_cons_self
      exact absurd hmem (ho' a' rfl)
  | some a =>
    cases o' with
    | none =>
      have hmem : a ∈ as' := by
        rw [Option.toList_none, List.nil_append] at h
        rw [← h]
        exact List.mem_cons_self
      exact absurd hmem (ho a rfl)
    | some a' =>
      obtain ⟨rfl, rfl⟩ := List.cons.inj h
      exact ⟨rfl, rfl⟩

theorem map_inj_on {β : Type} {f : α → β} {as as' : List α}
    (hf : ∀ a ∈ as, ∀ a' ∈ as', f a = f a' → a = a') (h : as.map f = as'.map f) : as = as' := by
  induction as generalizing as' with
  | nil => exact (List.map_eq_nil_iff.mp h.symm).symm
  | cons a as ih =>
    cases as' with
    | nil => cases h
    | cons a' as' =>
      obtain ⟨ha, hrest⟩ := List.cons.inj h
      have hrest := ih (fun b hb b' hb' => hf b (List.mem_cons_of_mem a hb) b'
        (List.mem_cons_of_mem a' hb')) hrest
      rw [hf a List.mem_cons_self a' List.mem_cons_self ha, hrest]

/-! ### lines -/

def OneLine (s : String) : Prop := '\n' ∉ s.toList

instance (s : String) : Decidable (OneLine s) := inferInstanceAs (Decidable ('\n' ∉ s.toList))

theorem OneLine.append {s t : String} (hs : OneLine s) (ht : OneLine t) : OneLine (s ++ t) := by
  unfold OneLine
  rw [String.toList_append, List.mem_append, not_or]
  exact ⟨hs, ht⟩

theorem oneLine_intercalate {sep : String} (hsep : OneLine sep) {ss : List String}
    (h : ∀ s ∈ ss, OneLine s) : OneLine (sep.intercalate ss) := by
  unfold OneLine at h hsep ⊢
  rw [String.toList_intercalate]
  induction ss with
  | nil => exact List.not_mem_nil
  | cons s ss ih =>
    rw [List.forall_mem_cons] at h
    cases ss with
    | nil =>
      rw [List.map_cons, List.map_nil, List.intercalate_singleton]
      exact h.1
    | cons t ss =>
      rw [List.map_cons, List.map_cons, List.intercalate_cons_cons, List.mem_append,
        List.mem_append, not_or, not_or]
      exact ⟨⟨h.1, hsep⟩, ih h.2⟩

theorem toList_unlines (ls : List String) :
    (unlines ls).toList = ls.flatMap fun l => l.toList ++ ['\n'] := by
  unfold unlines
  rw [String.toList_join, List.flatMap_map]
  simp only [String.toList_append]
  rfl

/-- **Cut at its line feeds, a text of lines is the lines**, and nothing stands behind the last line
feed. -/
theorem parts_unlines {ls : List String} (h : ∀ l ∈ ls, OneLine l) :
    parts '\n' (unlines ls).toList = ls.map String.toList ++ [[]] := by
  rw [toList_unlines]
  induction ls with
  | nil => rfl
  | cons l ls ih =>
    rw [List.forall_mem_cons] at h
    rw [List.flatMap_cons, List.append_assoc, List.singleton_append, parts_append_sep _ h.1, ih h.2]
    rfl

/-- **Lines are told by the text that they make.** -/
theorem unlines_inj {ls ls' : List String} (hl : ∀ l ∈ ls, OneLine l) (hl' : ∀ l ∈ ls', OneLine l)
    (h : unlines ls = unlines ls') : ls = ls' := by
  have hparts := congrArg (fun s => parts '\n' s.toList) h
  simp only [parts_unlines hl, parts_unlines hl'] at hparts
  exact map_inj_on (fun _ _ _ _ => String.toList_inj.mp) (List.append_cancel_right hparts)

end ServiceDiagram.Text

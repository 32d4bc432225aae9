/-!
# Words replaced in one reading

`Replaced becomes copy cs out` says that `out` is what comes of `cs` when it is read once from the
left: where a word starts it becomes what `becomes` says, and reading goes on behind it; elsewhere the
character is copied.  What has been written is not read again.

* `IsCode becomes`     no word is the front of another one;
* `Replaced.unique`    for a code there is one outcome only, and there is one
  (`IsCode.exists_replaced`);
* `Replaced.copied`    a text without words is copied;
* `Replaced.shorter`   a text with one becomes shorter, if the words do.
-/

namespace ServiceDiagram.Text

variable {α β γ : Type}

/-- **Words replaced in one reading from the left** -/
inductive Replaced (becomes : List α → List β → Prop) (copy : α → List β) :
    List α → List β → Prop
  | nil : Replaced becomes copy [] []
  | word {w bs rest out} (h : becomes w bs) (hrest : Replaced becomes copy rest out) :
      Replaced becomes copy (w ++ rest) (bs ++ out)
  | char {c rest out} (h : ∀ w bs, becomes w bs → ¬ w <+: c :: rest)
      (hrest : Replaced becomes copy rest out) : Replaced becomes copy (c :: rest) (copy c ++ out)

/-- **A code**: no word is the front of another one, and each becomes one thing. -/
structure IsCode (becomes : List α → List β → Prop) : Prop where
  ne_nil : ∀ w bs, becomes w bs → w ≠ []
  eq : ∀ w bs w' bs', becomes w bs → becomes w' bs' → w <+: w' → w = w' ∧ bs = bs'

variable {becomes : List α → List β → Prop} {copy : α → List β} {cs : List α} {out out' : List β}

/-- **There is one outcome only.** -/
theorem Replaced.unique (hcode : IsCode becomes) (h : Replaced becomes copy cs out)
    (h' : Replaced becomes copy cs out') : out = out' := by
  induction h generalizing out' with
  | nil =>
    generalize hcs : ([] : List α) = cs at h'
    cases h' with
    | nil => rfl
    | word hw _ => exact absurd (List.append_eq_nil_iff.mp hcs.symm).1 (hcode.ne_nil _ _ hw)
    | char _ _ => cases hcs
  | @word w bs rest out hw _ ih =>
    generalize hcs : w ++ rest = cs at h'
    cases h' with
    | nil => exact absurd (List.append_eq_nil_iff.mp hcs).1 (hcode.ne_nil _ _ hw)
    | @word w' bs' rest' out' hw' hrest' =>
      -- of two words that a text starts with, one is the front of the other
      have hsame : w = w' ∧ bs = bs' := by
        have hfront : w <+: w' ++ rest' := ⟨rest, hcs⟩
        rcases List.prefix_or_prefix_of_prefix hfront (List.prefix_append w' rest') with h | h
        · exact hcode.eq _ _ _ _ hw hw' h
        · obtain ⟨rfl, rfl⟩ := hcode.eq _ _ _ _ hw' hw h
          exact ⟨rfl, rfl⟩
      obtain ⟨rfl, rfl⟩ := hsame
      obtain rfl := List.append_cancel_left hcs
      rw [ih hrest']
    | char hnone _ => exact absurd ⟨rest, hcs⟩ (hnone _ _ hw)
  | @char c rest out hnone _ ih =>
    generalize hcs : c :: rest = cs at h'
    cases h' with
    | nil => cases hcs
    | word hw' _ => exact absurd (hcs ▸ List.prefix_append _ _) (hnone _ _ hw')
    | char _ hrest' =>
      obtain ⟨rfl, rfl⟩ := List.cons.inj hcs
      rw [ih hrest']

/-- **There is an outcome.** -/
theorem IsCode.exists_replaced (hcode : IsCode becomes) (copy : α → List β) (cs : List α) :
    ∃ out, Replaced becomes copy cs out := by
  -- by the length of the text: behind a word there is less of it
  induction hn : cs.length using Nat.strongRecOn generalizing cs with
  | ind n ih =>
    by_cases hstart : ∃ w bs rest, becomes w bs ∧ cs = w ++ rest
    · obtain ⟨w, bs, rest, hw, rfl⟩ := hstart
      have hpos := List.length_pos_iff.mpr (hcode.ne_nil w bs hw)
      rw [List.length_append] at hn
      obtain ⟨out, hout⟩ := ih rest.length (by omega) rest rfl
      exact ⟨bs ++ out, .word hw hout⟩
    · cases cs with
      | nil => exact ⟨[], .nil⟩
      | cons c rest =>
        rw [List.length_cons] at hn
        obtain ⟨out, hout⟩ := ih rest.length (by omega) rest rfl
        refine ⟨copy c ++ out, .char (fun w bs hw hfront => ?_) hout⟩
        obtain ⟨behind, hcs⟩ := hfront
        exact hstart ⟨w, bs, behind, hw, hcs.symm⟩

/-- **A text without words is copied.** -/
theorem Replaced.copied (h : Replaced becomes copy cs out)
    (hnone : ∀ w bs, becomes w bs → ¬ w <:+: cs) : out = cs.flatMap copy := by
  induction h with
  | nil => rfl
  | @word w bs rest out hw _ _ => exact absurd (List.prefix_append w rest).isInfix (hnone w bs hw)
  | @char c rest out _ _ ih =>
    rw [List.flatMap_cons, ih fun w bs hw hin => hnone w bs hw (List.infix_cons hin)]

/-! ### lengths -/

variable {f : α → List γ} {g : β → List γ}

theorem Replaced.length_le (hcopy : ∀ c, (copy c).flatMap g = f c)
    (hword : ∀ w bs, becomes w bs → (bs.flatMap g).length < (w.flatMap f).length)
    (h : Replaced becomes copy cs out) : (out.flatMap g).length ≤ (cs.flatMap f).length := by
  induction h with
  | nil => exact Nat.le_refl _
  | @word w bs rest out hw _ ih =>
    have := hword w bs hw
    rw [List.flatMap_append, List.flatMap_append, List.length_append, List.length_append]
    omega
  | @char c rest out _ _ ih =>
    rw [List.flatMap_append, List.flatMap_cons, hcopy, List.length_append, List.length_append]
    omega

/-- **A text with a word becomes shorter**, if the words do. -/
theorem Replaced.shorter (hcopy : ∀ c, (copy c).flatMap g = f c)
    (hword : ∀ w bs, becomes w bs → (bs.flatMap g).length < (w.flatMap f).length)
    (h : Replaced becomes copy cs out) {w : List α} {bs : List β} (hw : becomes w bs)
    (hin : w <:+: cs) : (out.flatMap g).length < (cs.flatMap f).length := by
  induction h with
  | nil =>
    -- only the empty word is in the empty text
    have := hword w bs hw
    rw [List.infix_nil.mp hin] at this
    exact absurd this (Nat.not_lt_zero _)
  | @word w' bs' rest out hw' hrest _ =>
    have hlt := hword w' bs' hw'
    have hle := hrest.length_le hcopy hword
    rw [List.flatMap_append, List.flatMap_append, List.length_append, List.length_append]
    omega
  | @char c rest out hnone _ ih =>
    have hrest : w <:+: rest := (List.infix_cons_iff.mp hin).resolve_left (hnone w bs hw)
    have := ih hrest
    rw [List.flatMap_append, List.flatMap_cons, hcopy, List.length_append, List.length_append]
    omega

end ServiceDiagram.Text

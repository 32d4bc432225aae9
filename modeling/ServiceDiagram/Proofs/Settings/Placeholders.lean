import ServiceDiagram.Proofs.Text.Replaced
import ServiceDiagram.Proofs.Text.Runs
import ServiceDiagram.Settings.Placeholder

/-!
# Placeholders are filled in one reading

A text is read once from the left, and its pieces are the characters that stay and the placeholders.
Which pieces it has does not depend on the environment: the environment says only what each of them
becomes (`fill_eq`).  So a value is never read again, and never makes a placeholder with what stands
beside it.

* `IsName n`         any run of characters without a closing brace, but not the empty one;
* `Piece`            a character that stays, or the name of a placeholder;
* `ReadsAs cs ps`    `ps` are the pieces of `cs`, by one reading from the left;
* `names_of_reads`   the names of a text are those of its pieces.
-/

namespace ServiceDiagram.Settings

open Text

/-- **What may stand between the braces** -/
def IsName (n : List Char) : Prop := n ≠ [] ∧ '\x7d' ∉ n

instance (n : List Char) : Decidable (IsName n) :=
  inferInstanceAs (Decidable (n ≠ [] ∧ '\x7d' ∉ n))

inductive Piece where
  | char (c : Char)
  | name (n : List Char)

namespace Piece

def text : Piece → List Char
  | .char c => [c]
  | .name n => placeholder n

def name? : Piece → Option (List Char)
  | .char _ => none
  | .name n => some n

/-- **What becomes of a piece**: a placeholder whose name has a value becomes the value. -/
def filled (env : Environment) : Piece → List Char
  | .char c => [c]
  | .name n => (env.value? n).getD (placeholder n)

end Piece

def PlaceholderWord (w : List Char) (ps : List Piece) : Prop :=
  ∃ n, IsName n ∧ w = placeholder n ∧ ps = [.name n]

/-- **The pieces of a text**: where a placeholder starts it is one piece, and reading goes on behind it;
elsewhere the character is one. -/
abbrev ReadsAs : List Char → List Piece → Prop := Replaced PlaceholderWord fun c => [.char c]

variable {env : Environment} {c : Char} {cs n rest : List Char} {ps : List Piece}

/-! ### one placeholder -/

/-- a placeholder ends with the first closing brace -/
theorem placeholder?_eq_some_iff :
    placeholder? cs = some (n, rest) ↔ IsName n ∧ cs = placeholder n ++ rest := by
  constructor
  · intro h
    refine ⟨?_, eq_placeholder_append h⟩
    unfold placeholder? at h
    split at h
    · next tail =>
      simp only at h
      split at h
      · cases h
      · split at h
        · cases h
        · next hne =>
          cases h
          refine ⟨fun he => hne (List.isEmpty_iff.mpr he), fun hmem => ?_⟩
          have hpass := List.all_takeWhile (p := (· != '\x7d')) (l := tail)
          rw [List.all_eq_true] at hpass
          exact absurd (hpass _ hmem) (by decide)
    · cases h
  · rintro ⟨⟨hne, hbrace⟩, rfl⟩
    have hpass : ∀ d ∈ n, (d != '\x7d') = true := by
      intro d hd
      rw [bne_iff_ne]
      rintro rfl
      exact hbrace hd
    have hstop : ∀ d ∈ ('\x7d' :: rest).head?, (d != '\x7d') = false := forall_head_cons (by decide)
    have htext : placeholder n ++ rest = '$' :: '\x7b' :: (n ++ '\x7d' :: rest) := by
      simp only [placeholder, List.cons_append, List.append_assoc, List.nil_append]
    rw [htext, placeholder?]
    simp only [takeWhile_run hpass hstop, dropWhile_run hpass hstop, List.isEmpty_iff, if_neg hne]

theorem isCode_placeholder : IsCode PlaceholderWord where
  ne_nil := by
    rintro w ps ⟨n, -, rfl, -⟩
    exact List.cons_ne_nil _ _
  eq := by
    rintro w ps w' ps' ⟨n, hn, rfl, rfl⟩ ⟨n', hn', rfl, rfl⟩ ⟨rest, hrest⟩
    -- both words are the placeholder that the longer one starts with
    have hread : placeholder? (placeholder n') = some (n, rest) :=
      placeholder?_eq_some_iff.mpr ⟨hn, hrest.symm⟩
    have hwhole : placeholder? (placeholder n') = some (n', []) :=
      placeholder?_eq_some_iff.mpr ⟨hn', (List.append_nil _).symm⟩
    obtain ⟨rfl, -⟩ := Prod.mk.inj (Option.some.inj (hread.symm.trans hwhole))
    exact ⟨rfl, rfl⟩

theorem placeholder?_eq_none (h : ∀ w ps, PlaceholderWord w ps → ¬ w <+: cs) :
    placeholder? cs = none := by
  cases hread : placeholder? cs with
  | none => rfl
  | some p =>
    obtain ⟨hn, hcs⟩ := placeholder?_eq_some_iff.mp hread
    exact absurd ⟨p.2, hcs.symm⟩ (h _ _ ⟨p.1, hn, rfl, rfl⟩)

/-! ### one step of a reading -/

theorem fill_placeholder (hn : IsName n) (rest : List Char) :
    fill env (placeholder n ++ rest) =
      (env.value? n).getD (placeholder n) ++ fill env rest := by
  have hread : placeholder? (placeholder n ++ rest) = some (n, rest) :=
    placeholder?_eq_some_iff.mpr ⟨hn, rfl⟩
  rw [fill]
  split
  · next h =>
    cases h.symm.trans hread
    rfl
  · next h => cases h.symm.trans hread

theorem fill_char (h : placeholder? (c :: rest) = none) :
    fill env (c :: rest) = c :: fill env rest := by
  rw [fill]
  split
  · next h' => cases h'.symm.trans h
  · rfl

theorem fill_nil : fill env [] = [] := by
  rw [fill]
  rfl

theorem names_placeholder (hn : IsName n) (rest : List Char) :
    names (placeholder n ++ rest) = n :: names rest := by
  have hread : placeholder? (placeholder n ++ rest) = some (n, rest) :=
    placeholder?_eq_some_iff.mpr ⟨hn, rfl⟩
  rw [names]
  split
  · next h =>
    cases h.symm.trans hread
    rfl
  · next h => cases h.symm.trans hread

theorem names_char (h : placeholder? (c :: rest) = none) : names (c :: rest) = names rest := by
  rw [names]
  split
  · next h' => cases h'.symm.trans h
  · rfl

theorem names_nil : names [] = [] := by
  rw [names]
  rfl

/-! ### a whole reading -/

/-- **Filling goes over the pieces.** -/
theorem fill_eq (h : ReadsAs cs ps) : fill env cs = ps.flatMap (Piece.filled env) := by
  induction h with
  | nil => exact fill_nil
  | word hw _ ih =>
    obtain ⟨n, hn, rfl, rfl⟩ := hw
    rw [fill_placeholder hn, ih]
    rfl
  | char hnone _ ih =>
    rw [fill_char (placeholder?_eq_none hnone), ih]
    rfl

theorem names_of_reads (h : ReadsAs cs ps) : names cs = ps.filterMap Piece.name? := by
  induction h with
  | nil => exact names_nil
  | word hw _ ih =>
    obtain ⟨n, hn, rfl, rfl⟩ := hw
    rw [names_placeholder hn, ih]
    rfl
  | char hnone _ ih =>
    rw [names_char (placeholder?_eq_none hnone), ih]
    rfl

theorem text_of_reads (h : ReadsAs cs ps) : ps.flatMap Piece.text = cs := by
  induction h with
  | nil => rfl
  | word hw _ ih =>
    obtain ⟨n, -, rfl, rfl⟩ := hw
    rw [List.flatMap_append, ih]
    exact congrArg (· ++ _) (List.flatMap_singleton ..)
  | char _ _ ih =>
    rw [List.flatMap_append, ih]
    rfl

theorem fill_of_unset (h : ∀ n ∈ names cs, env.value? n = none) : fill env cs = cs := by
  obtain ⟨ps, hps⟩ := isCode_placeholder.exists_replaced (fun c => [Piece.char c]) cs
  rw [names_of_reads hps] at h
  have hsame : ∀ p ∈ ps, Piece.filled env p = p.text := by
    intro p hp
    cases p with
    | char c => rfl
    | name n =>
      have hn := h n (List.mem_filterMap.mpr ⟨_, hp, rfl⟩)
      show (env.value? n).getD (placeholder n) = placeholder n
      rw [hn]
      rfl
  rw [fill_eq hps, List.flatMap_def, List.map_congr_left hsame, ← List.flatMap_def,
    text_of_reads hps]

/-! ### what a text becomes -/

/-- **Placeholders are filled in one reading**, and all else stays.  A text has its pieces by one
reading from the left, the same ones in every environment, and they are all of it.  What the text
becomes is what they become: the value of a name that has one, and what was written everywhere else.
So a text of whose names none has a value stays as it is. -/
theorem filled_once (s : String) :
    ∃ ps, (∀ ps', ReadsAs s.toList ps' ↔ ps' = ps) ∧
      ps.flatMap Piece.text = s.toList ∧
      names s.toList = ps.filterMap Piece.name? ∧
      ∀ env, (filled env s).toList = ps.flatMap (Piece.filled env) ∧
        ((∀ n ∈ names s.toList, env.value? n = none) → filled env s = s) := by
  obtain ⟨ps, hps⟩ := isCode_placeholder.exists_replaced (fun c => [Piece.char c]) s.toList
  refine ⟨ps, fun ps' => ?_, text_of_reads hps, names_of_reads hps, fun env => ⟨?_, fun h => ?_⟩⟩
  · constructor
    · exact fun h => h.unique isCode_placeholder hps
    · rintro rfl
      exact hps
  · unfold filled
    rw [String.toList_ofList, fill_eq hps]
  · unfold filled
    rw [fill_of_unset h, String.ofList_toList]

/-- a name that begins with another placeholder, no name at all, and a value that looks like one -/
theorem filled_once_nested :
    let s := "$\x7b $\x7bA\x7d$\x7b\x7d$\x7bB\x7d"
    names s.toList = [" $\x7bA".toList, "B".toList] ∧
      filled [("A", "x")] s = s ∧
      filled [("A", "x"), ("B", "$\x7bA\x7d")] s = "$\x7b $\x7bA\x7d$\x7b\x7d$\x7bA\x7d" := by
  intro s
  have hnames : names s.toList = [" $\x7bA".toList, "B".toList] := by decide +kernel
  have hunset : ∀ n ∈ names s.toList, Environment.value? [("A", "x")] n = none := by
    rw [hnames]
    decide
  obtain ⟨ps, -, -, -, hfilled⟩ := filled_once s
  exact ⟨hnames, (hfilled _).2 hunset, by decide +kernel⟩

end ServiceDiagram.Settings

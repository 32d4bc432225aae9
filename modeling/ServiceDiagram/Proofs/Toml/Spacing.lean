import ServiceDiagram.Proofs.Text.Runs
import ServiceDiagram.Toml.Reader

/-!
# Space between the words of a document

Blanks, comments and line ends may stand between the words of a document, and the readers pass over
them, whatever they are.

* `AreBlank cs`       blanks of one line;
* `IsComment cs`      nothing, or a comment;
* `IsLineEnd cs`      a line feed, with a return in front or not;
* `AreEmptyLines cs`  lines with nothing but blanks and comments;
* `IsSpace cs`        what may stand where lines may end;
* `IsRest cs`         what may stand behind the last word of a document;
* `IsWord cs`         a text that starts with none of these.
-/

namespace ServiceDiagram.Toml

open Text (dropWhile_run forall_head_cons forall_head_append)

/-! ### kinds of space -/

def AreBlank (cs : List Char) : Prop := ∀ c ∈ cs, isBlank c = true

/-- nothing, or a comment up to the end of its line -/
def IsComment (cs : List Char) : Prop :=
  cs = [] ∨ ∃ body, cs = '#' :: body ∧ ∀ c ∈ body, isControl c = false

def IsLineEnd (cs : List Char) : Prop := cs = ['\n'] ∨ cs = ['\r', '\n']

/-- **Lines with nothing but blanks and comments** -/
inductive AreEmptyLines : List Char → Prop
  | nil : AreEmptyLines []
  | line {blanks comment ending lines : List Char} (hblanks : AreBlank blanks)
      (hcomment : IsComment comment) (hending : IsLineEnd ending) (hlines : AreEmptyLines lines) :
      AreEmptyLines (blanks ++ (comment ++ (ending ++ lines)))

/-- **What may stand between words where lines may end** -/
def IsSpace (cs : List Char) : Prop :=
  ∃ lines blanks, AreEmptyLines lines ∧ AreBlank blanks ∧ cs = lines ++ blanks

/-- **What may stand behind the last word of a document** -/
def IsRest (cs : List Char) : Prop :=
  ∃ lines blanks comment, AreEmptyLines lines ∧ AreBlank blanks ∧ IsComment comment ∧
    cs = lines ++ (blanks ++ comment)

def startsWord (c : Char) : Bool := !isBlank c && c != '#' && c != '\n' && c != '\r'

def IsWord (cs : List Char) : Prop := ∃ c rest, cs = c :: rest ∧ startsWord c = true

def IsAtEnd (cs : List Char) : Prop := cs = [] ∨ ∃ ending rest, IsLineEnd ending ∧ cs = ending ++ rest

variable {blanks comment ending lines space rest cs : List Char} {c : Char}

theorem areBlank_nil : AreBlank [] := nofun

theorem isSpace_nil : IsSpace [] := ⟨[], [], .nil, areBlank_nil, rfl⟩

theorem IsWord.append (h : IsWord cs) (rest : List Char) : IsWord (cs ++ rest) := by
  obtain ⟨c, cs, rfl, hc⟩ := h
  exact ⟨c, cs ++ rest, rfl, hc⟩

/-! ### blanks -/

theorem skipBlanks_append (hblanks : AreBlank blanks) (h : ∀ c ∈ cs.head?, isBlank c = false) :
    skipBlanks (blanks ++ cs) = cs :=
  dropWhile_run hblanks h

theorem skipBlanks_cons (hblanks : AreBlank blanks) (hc : isBlank c = false) (rest : List Char) :
    skipBlanks (blanks ++ c :: rest) = c :: rest :=
  skipBlanks_append hblanks (forall_head_cons hc)

/-! ### ends of lines -/

theorem lineEnd?_append (hending : IsLineEnd ending) (rest : List Char) :
    lineEnd? (ending ++ rest) = some rest := by
  rcases hending with rfl | rfl <;> rfl

theorem IsAtEnd.head (h : IsAtEnd cs) :
    ∀ c ∈ cs.head?, isControl c = true ∧ isBlank c = false ∧ c ≠ '#' := by
  rcases h with rfl | ⟨ending, rest, rfl | rfl, rfl⟩
  · exact nofun
  · exact forall_head_cons (by decide)
  · exact forall_head_cons (by decide)

theorem skipComment_append (hcomment : IsComment comment) (hend : IsAtEnd cs) :
    skipComment (comment ++ cs) = cs := by
  rcases hcomment with rfl | ⟨body, rfl, hbody⟩
  · cases cs with
    | nil => rfl
    | cons c cs =>
      have hc := (hend.head c rfl).2.2
      rw [List.nil_append, skipComment]
      intro rest he
      exact hc (List.cons.inj he).1
  · show (body ++ cs).dropWhile (fun c => !isControl c) = cs
    refine dropWhile_run (fun c hc => ?_) fun c hc => ?_
    · rw [hbody c hc, Bool.not_false]
    · rw [(hend.head c hc).1, Bool.not_true]

theorem skip_margin (hblanks : AreBlank blanks) (hcomment : IsComment comment) (hend : IsAtEnd cs) :
    skipComment (skipBlanks (blanks ++ (comment ++ cs))) = cs := by
  have hhead : ∀ c ∈ (comment ++ cs).head?, isBlank c = false := by
    rcases hcomment with rfl | ⟨body, rfl, -⟩
    · exact fun c hc => (hend.head c hc).2.1
    · exact forall_head_cons rfl
  rw [skipBlanks_append hblanks hhead, skipComment_append hcomment hend]

theorem endLine?_line (hblanks : AreBlank blanks) (hcomment : IsComment comment)
    (hending : IsLineEnd ending) (rest : List Char) :
    endLine? (blanks ++ (comment ++ (ending ++ rest))) = some rest := by
  unfold endLine?
  rw [skip_margin hblanks hcomment (Or.inr ⟨ending, rest, hending, rfl⟩)]
  rcases hending with rfl | rfl <;> rfl

/-- **A document may end on the line of its last word**, or go on with space. -/
theorem endLine?_rest (h : IsRest cs) : ∃ rest, endLine? cs = some rest ∧ IsRest rest := by
  obtain ⟨lines, blanks, comment, hlines, hblanks, hcomment, rfl⟩ := h
  cases hlines with
  | nil =>
    refine ⟨[], ?_, [], [], [], .nil, areBlank_nil, Or.inl rfl, rfl⟩
    have hskip := skip_margin hblanks hcomment (Or.inl rfl)
    rw [List.append_nil] at hskip
    unfold endLine?
    rw [List.nil_append, hskip]
  | line hblanks' hcomment' hending hlines =>
    refine ⟨_, ?_, _, blanks, comment, hlines, hblanks, hcomment, rfl⟩
    rw [List.append_assoc, List.append_assoc, List.append_assoc]
    exact endLine?_line hblanks' hcomment' hending _

/-! ### space -/

theorem IsWord.skip (h : IsWord cs) (hblanks : AreBlank blanks) :
    skipComment (skipBlanks (blanks ++ cs)) = cs ∧ lineEnd? cs = none := by
  obtain ⟨c, rest, rfl, hc⟩ := h
  simp only [startsWord, Bool.and_eq_true, Bool.not_eq_true', bne_iff_ne] at hc
  obtain ⟨⟨⟨hblank, hmark⟩, hfeed⟩, hreturn⟩ := hc
  rw [skipBlanks_cons hblanks hblank]
  constructor
  · rw [skipComment]
    rintro more he
    exact hmark (List.cons.inj he).1
  · rw [lineEnd?]
    · rintro more he
      exact hfeed (List.cons.inj he).1
    · rintro more he
      exact hreturn (List.cons.inj he).1

theorem IsLineEnd.length_pos (h : IsLineEnd ending) : 0 < ending.length := by
  rcases h with rfl | rfl <;> decide

theorem skipLines_append (hlines : AreEmptyLines lines) {fuel : Nat} (hfuel : lines.length < fuel)
    (rest : List Char) :
    ∃ fuel', 0 < fuel' ∧ skipLines fuel (lines ++ rest) = skipLines fuel' rest := by
  induction hlines generalizing fuel with
  | nil => exact ⟨fuel, hfuel, rfl⟩
  | @line blanks comment ending lines hblanks hcomment hending _ ih =>
    obtain ⟨fuel, rfl⟩ : ∃ n, fuel = n + 1 := ⟨fuel - 1, by omega⟩
    have hlength : lines.length < fuel := by
      have hpos := hending.length_pos
      simp only [List.length_append] at hfuel
      omega
    obtain ⟨fuel', hpos, hskip⟩ := ih hlength
    refine ⟨fuel', hpos, ?_⟩
    rw [← hskip, skipLines, List.append_assoc, List.append_assoc, List.append_assoc,
      skip_margin hblanks hcomment (Or.inr ⟨ending, lines ++ rest, hending, rfl⟩),
      lineEnd?_append hending]

/-- **Space in front of a word is passed over.** -/
theorem skipSpace_word (hspace : IsSpace space) (hword : IsWord cs) : skipSpace (space ++ cs) = cs := by
  obtain ⟨lines, blanks, hlines, hblanks, rfl⟩ := hspace
  have hfuel : lines.length < (lines ++ (blanks ++ cs)).length + 1 := by
    simp only [List.length_append]
    omega
  obtain ⟨fuel, hpos, hskip⟩ := skipLines_append hlines hfuel (blanks ++ cs)
  obtain ⟨fuel, rfl⟩ : ∃ n, fuel = n + 1 := ⟨fuel - 1, by omega⟩
  obtain ⟨hmargin, hnone⟩ := hword.skip hblanks
  rw [List.append_assoc, skipSpace, hskip, skipLines, hmargin, hnone]

/-- **Behind the last word of a document there is no other one.** -/
theorem skipSpace_rest (h : IsRest cs) : skipSpace cs = [] := by
  obtain ⟨lines, blanks, comment, hlines, hblanks, hcomment, rfl⟩ := h
  have hfuel : lines.length < (lines ++ (blanks ++ comment)).length + 1 := by
    simp only [List.length_append]
    omega
  obtain ⟨fuel, hpos, hskip⟩ := skipLines_append hlines hfuel (blanks ++ comment)
  obtain ⟨fuel, rfl⟩ : ∃ n, fuel = n + 1 := ⟨fuel - 1, by omega⟩
  have hmargin := skip_margin hblanks hcomment (Or.inl rfl)
  rw [List.append_nil] at hmargin
  rw [skipSpace, hskip, skipLines, hmargin]
  rfl

/-! ### what starts space -/

theorem AreBlank.head (h : AreBlank blanks) : ∀ c ∈ blanks.head?, startsWord c = false := by
  intro c hc
  rw [startsWord, h c (List.mem_of_mem_head? hc)]
  rfl

theorem IsComment.head (h : IsComment comment) : ∀ c ∈ comment.head?, startsWord c = false := by
  rcases h with rfl | ⟨body, rfl, -⟩
  · exact nofun
  · exact forall_head_cons rfl

theorem IsLineEnd.head (h : IsLineEnd ending) : ∀ c ∈ ending.head?, startsWord c = false := by
  rcases h with rfl | rfl
  · exact forall_head_cons rfl
  · exact forall_head_cons rfl

theorem AreEmptyLines.head (h : AreEmptyLines lines) : ∀ c ∈ lines.head?, startsWord c = false := by
  induction h with
  | nil => exact nofun
  | line hblanks hcomment hending _ ih =>
    exact forall_head_append hblanks.head
      (forall_head_append hcomment.head (forall_head_append hending.head ih))

theorem IsSpace.head (h : IsSpace space) : ∀ c ∈ space.head?, startsWord c = false := by
  obtain ⟨lines, blanks, hlines, hblanks, rfl⟩ := h
  exact forall_head_append hlines.head hblanks.head

end ServiceDiagram.Toml

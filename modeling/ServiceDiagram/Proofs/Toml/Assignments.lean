import ServiceDiagram.Proofs.Toml.Kept
import ServiceDiagram.Proofs.Toml.Keys
import ServiceDiagram.Proofs.Toml.Quotes

/-!
# Documents that assign one string

A document that assigns a string to one key of one table, and nothing else, does it below a header, by
a dotted key, or in an inline table; its space, its comments and the spelling of its keys are free
(`Assigns`).  However it does it, the string is read where it stands, and all that follows leaves it as
it is (`Assigns.exists_reading`).  So a plain text between the quotes is all that the document spells
(`IsDocument.read?_plain`), and any other text is spelled as its quotes make it
(`IsDocument.leaf?_read?`).

* `IsLineTail cs`                what may stand behind a header, up to the next entry;
* `IsClosing cs`                 what may stand behind the last member of an inline table, and its end;
* `Assigns outer inner f b`      `f` and `b` stand around a string for `inner` in `outer`;
* `IsDocument outer inner f b`   the same, with a mark of the byte order in front or not;
* `Leads more inner behind`      `more` reads what is left of the table that has the string.
-/

namespace ServiceDiagram.Toml

open Text (forall_head_cons forall_head_append)

variable {outer inner : String} {front behind cs space close line e : List Char} {x : String}
  {fuel depth : Nat} {t t' : Table}

/-! ### documents -/

def IsLineTail (cs : List Char) : Prop :=
  ∃ blanks comment ending space, AreBlank blanks ∧ IsComment comment ∧ IsLineEnd ending ∧
    IsSpace space ∧ cs = blanks ++ (comment ++ (ending ++ space))

def IsClosing (cs : List Char) : Prop :=
  ∃ space comma, IsSpace space ∧ (comma = [] ∨ ∃ space', IsSpace space' ∧ comma = ',' :: space') ∧
    cs = space ++ (comma ++ ['\x7d'])

/-- **A document that assigns one string**, in front of its opening quote and behind the closing one -/
inductive Assigns (outer inner : String) : List Char → List Char → Prop
  /-- `[outer]`, and below it `inner = "…"` -/
  | header {space blanks w blanks' line e rest : List Char} (hspace : IsSpace space)
      (hblanks : AreBlank blanks) (hw : KeySpells outer w) (hblanks' : AreBlank blanks')
      (hline : IsLineTail line) (he : IsEntry [inner] e) (hrest : IsRest rest) :
      Assigns outer inner (space ++ '[' :: (blanks ++ (w ++ (blanks' ++ ']' :: (line ++ e))))) rest
  /-- `outer.inner = "…"` -/
  | dotted {space e rest : List Char} (hspace : IsSpace space) (he : IsEntry [outer, inner] e)
      (hrest : IsRest rest) : Assigns outer inner (space ++ e) rest
  /-- an inline table with the only member `inner = "…"` -/
  | inline {space e space' e' close rest : List Char} (hspace : IsSpace space)
      (he : IsEntry [outer] e) (hspace' : IsSpace space') (he' : IsEntry [inner] e')
      (hclose : IsClosing close) (hrest : IsRest rest) :
      Assigns outer inner (space ++ (e ++ '\x7b' :: (space' ++ e'))) (close ++ rest)

/-- **A document that assigns one string**, with a mark of the byte order in front or not -/
def IsDocument (outer inner : String) (front behind : List Char) : Prop :=
  ∃ mark front', (mark = [] ∨ mark = ['\uFEFF']) ∧ Assigns outer inner front' behind ∧
    front = mark ++ front'

/-! ### values -/

theorem value?_string (fuel depth : Nat) (cs : List Char) :
    value? (fuel + 1) depth ('"' :: cs) =
      (string? ('"' :: cs)).map fun p => (.string p.1, p.2) := by
  rw [value?]
  simp only [true_or, if_true]

theorem value?_inline (fuel : Nat) (cs : List Char) :
    value? (fuel + 1) 0 ('\x7b' :: cs) =
      (members? fuel 1 [] (skipSpace cs)).map fun p => (.table .inline p.1, p.2) := by
  have hdepth : ¬ maxDepth ≤ 0 := by decide
  rw [value?]
  simp [hdepth]

theorem isClose_quote (cs : List Char) : IsClose ('"' :: cs) := forall_head_cons rfl

/-! ### what is read behind the string -/

/-- **What is read of a table behind its string**: in the document it is at its end, and whatever stands
there, the string stays. -/
structure Leads (more : Table → List Char → Option (Table × List Char)) (inner : String)
    (behind : List Char) : Prop where
  ends : ∃ rest, IsRest rest ∧ ∀ t, more t behind = some (t, rest)
  keeps : ∀ {t cs t' rest x}, more t cs = some (t', rest) → t.lookup inner = some (.string x) →
    t'.lookup inner = some (.string x)

theorem leads_some (hrest : IsRest behind) : Leads (fun t cs => some (t, cs)) inner behind where
  ends := ⟨behind, hrest, fun _ => rfl⟩
  keeps := by
    intro t cs t' rest x h hx
    cases h
    exact hx

theorem isWord_of_mem {c : Char} (hc : startsWord c = true) (cs : List Char) : IsWord (c :: cs) :=
  ⟨c, cs, rfl, hc⟩

theorem behindMember?_closing (hclose : IsClosing close) (hfuel : 0 < fuel) (depth : Nat) (t : Table)
    (rest : List Char) : behindMember? fuel depth t (close ++ rest) = some (t, rest) := by
  obtain ⟨fuel, rfl⟩ : ∃ n, fuel = n + 1 := ⟨fuel - 1, by omega⟩
  obtain ⟨space, comma, hspace, hcomma, rfl⟩ := hclose
  have hbrace : IsWord ('\x7d' :: rest) := isWord_of_mem (by decide) rest
  rcases hcomma with rfl | ⟨space', hspace', rfl⟩
  · have hskip : skipSpace (space ++ ([] ++ ['\x7d']) ++ rest) = '\x7d' :: rest := by
      rw [List.append_assoc]
      exact skipSpace_word hspace hbrace
    rw [behindMember?, hskip]
    rfl
  · have hskip : skipSpace (space ++ (',' :: space' ++ ['\x7d']) ++ rest) =
        ',' :: (space' ++ '\x7d' :: rest) := by
      rw [List.append_assoc, List.cons_append, List.cons_append, List.append_assoc]
      exact skipSpace_word hspace (isWord_of_mem (by decide) _)
    rw [behindMember?, hskip]
    show members? (fuel + 1) depth t (skipSpace (space' ++ '\x7d' :: rest)) = some (t, rest)
    rw [skipSpace_word hspace' hbrace, members?.eq_def]
    rfl

theorem leads_behindMember? (hclose : IsClosing close) (hfuel : 0 < fuel) (depth : Nat)
    (hrest : IsRest behind) : Leads (behindMember? fuel depth) inner (close ++ behind) where
  ends := ⟨behind, hrest, fun t => behindMember?_closing hclose hfuel depth t behind⟩
  keeps := by
    intro t cs t' rest x h hx
    unfold behindMember? at h
    split at h
    · exact lookup_members? h hx
    · cases h
      exact hx
    · cases h

/-! ### the whole document -/

/-- **A document is read up to its string, and then what is behind it**: the table that the string is in
first, and then the lines that follow. -/
theorem Assigns.exists_reading (h : Assigns outer inner front behind) :
    ∃ lines ≤ 2, ∀ cs fuel, ∃ origin path more, Leads more inner behind ∧
      readLines? (fuel + lines) ⟨[], []⟩ (front ++ '"' :: cs) =
        (string? ('"' :: cs)).bind fun p =>
          (more [(inner, .string p.1)] p.2).bind fun q =>
            (endLine? q.2).bind (readLines? fuel ⟨[(outer, .table origin q.1)], path⟩) := by
  cases h with
  | @header space blanks w blanks' line e _ hspace hblanks hw hblanks' hline he hrest =>
    refine ⟨2, Nat.le_refl 2, fun cs fuel => ⟨.header, [outer], _, leads_some hrest, ?_⟩⟩
    obtain ⟨blanks₂, comment, ending, space₂, hblanks₂, hcomment, hending, hspace₂, rfl⟩ := hline
    have hopen : line? ⟨[], []⟩ ('[' :: (blanks ++ (w ++ (blanks' ++ ']' ::
        (blanks₂ ++ (comment ++ (ending ++ (space₂ ++ (e ++ '"' :: cs))))))))) =
          some (⟨[(outer, .table .header [])], [outer]⟩,
            blanks₂ ++ (comment ++ (ending ++ (space₂ ++ (e ++ '"' :: cs))))) :=
      line?_header (.last hw) hblanks hblanks' rfl _ _
    have hinsert : ∀ v, Table.underHeader? (Table.insert? v [inner]) [outer]
        [(outer, .table .header [])] = some [(outer, .table .header [(inner, v)])] := by
      intro v
      simp only [Table.underHeader?, Table.alter?, if_true]
      rfl
    simp only [List.append_assoc, List.cons_append]
    rw [readLines?_word hspace (isWord_of_mem (by decide) _), hopen, Option.bind_some,
      endLine?_line hblanks₂ hcomment hending, Option.bind_some,
      readLines?_word hspace₂ (he.isWord.append _), line?_entry he, entry?_eq he (isClose_quote cs),
      value?_string]
    cases string? ('"' :: cs) with
    | none => rfl
    | some p =>
      simp only [Option.map_some, Option.bind_some, hinsert]
  | @dotted space e _ hspace he hrest =>
    refine ⟨1, Nat.le_succ 1, fun cs fuel => ⟨.dotted, [], _, leads_some hrest, ?_⟩⟩
    rw [List.append_assoc, readLines?_word hspace (he.isWord.append _), line?_entry he,
      entry?_eq he (isClose_quote cs), value?_string]
    cases string? ('"' :: cs) with
    | none => rfl
    | some p => rfl
  | @inline space e space' e' close rest hspace he hspace' he' hclose hrest =>
    refine ⟨1, Nat.le_succ 1, fun cs fuel => ⟨.inline, [], _, leads_behindMember? hclose
      (Nat.succ_pos (3 * (e ++ '\x7b' :: (space' ++ (e' ++ '"' :: cs))).length + 13)) 1 hrest, ?_⟩⟩
    have hbrace : IsClose ('\x7b' :: (space' ++ (e' ++ '"' :: cs))) := forall_head_cons rfl
    simp only [List.append_assoc, List.cons_append]
    rw [readLines?_word hspace (he.isWord.append _), line?_entry he, entry?_eq he hbrace,
      value?_inline, skipSpace_word hspace' (he'.isWord.append _), members?_eq he' (isClose_quote cs),
      value?_string]
    cases string? ('"' :: cs) with
    | none => rfl
    | some p =>
      have hinsert : Table.insert? (.string p.1) [inner] [] = some [(inner, .string p.1)] := rfl
      simp only [Option.map_some, Option.bind_some, hinsert]
      cases behindMember? (3 * (e ++ '\x7b' :: (space' ++ (e' ++ '"' :: cs))).length + 14) 1
          [(inner, .string p.1)] p.2 with
      | none => rfl
      | some q => rfl

/-! ### around the document -/

theorem Assigns.head_front (h : Assigns outer inner front behind) (cs : List Char) :
    ∀ c ∈ (front ++ '"' :: cs).head?, c ≠ '\uFEFF' := by
  have hspace : ∀ {space}, IsSpace space → ∀ c ∈ space.head?, c ≠ '\uFEFF' := by
    rintro space hspace c hc rfl
    cases hspace.head _ hc
  have hentry : ∀ {path e}, IsEntry path e → ∀ rest, ∀ c ∈ (e ++ rest).head?, c ≠ '\uFEFF' := by
    intro path e he rest
    obtain ⟨d, tail, rfl, hd⟩ := he.exists_head
    exact forall_head_cons (ne_of_startsKey hd (by decide))
  cases h with
  | header hs _ _ _ _ _ _ =>
    rw [List.append_assoc]
    exact forall_head_append (hspace hs) (forall_head_cons (by decide))
  | dotted hs he _ =>
    rw [List.append_assoc]
    exact forall_head_append (hspace hs) (hentry he _)
  | inline hs he _ _ _ _ =>
    rw [List.append_assoc, List.append_assoc]
    exact forall_head_append (hspace hs) (hentry he _)

theorem Assigns.isQuiet (h : Assigns outer inner front behind) : IsQuiet behind := by
  have hmark : ∀ {space} {c : Char}, IsSpace space → c = ',' ∨ c = '\x7d' → ∀ cs,
      IsQuiet (space ++ c :: cs) := by
    intro space c hspace hc cs
    obtain ⟨hcalm, hline⟩ : (c ≠ '"' ∧ c ≠ '\\') ∧ ¬ (c = '\n' ∨ c = '\r') := by
      rcases hc with rfl | rfl <;> decide
    exact isQuiet_space hspace (forall_head_cons hcalm) (forall_head_cons hline)
  cases h with
  | header _ _ _ _ _ _ hrest | dotted _ _ hrest => exact hrest.isQuiet
  | inline _ _ _ _ hclose _ =>
    obtain ⟨space, comma, hspace, hcomma, rfl⟩ := hclose
    rw [List.append_assoc]
    rcases hcomma with rfl | ⟨space', -, rfl⟩
    · exact hmark hspace (Or.inr rfl) _
    · exact hmark hspace (Or.inl rfl) _

theorem IsDocument.isQuiet (h : IsDocument outer inner front behind) : IsQuiet behind := by
  obtain ⟨_, _, -, h, -⟩ := h
  exact h.isQuiet

theorem dropByteOrderMark_of_head {cs : List Char} (h : ∀ c ∈ cs.head?, c ≠ '\uFEFF') :
    dropByteOrderMark cs = cs := by
  unfold dropByteOrderMark
  split
  · exact absurd rfl (h _ rfl)
  · rfl

theorem Assigns.read?_eq (h : Assigns outer inner front behind) {mark : List Char}
    (hmark : mark = [] ∨ mark = ['\uFEFF']) (cs : List Char) :
    read? (String.ofList (mark ++ front ++ '"' :: cs)) =
      readLines? ((front ++ '"' :: cs).length + 1) ⟨[], []⟩ (front ++ '"' :: cs) := by
  have hdrop : dropByteOrderMark (mark ++ front ++ '"' :: cs) = front ++ '"' :: cs := by
    rcases hmark with rfl | rfl
    · exact dropByteOrderMark_of_head (h.head_front cs)
    · rfl
  rw [read?]
  simp only [String.toList_ofList, hdrop]

/-- **A plain text between the quotes is all that the document assigns.** -/
theorem IsDocument.read?_plain (h : IsDocument outer inner front behind) (hcs : IsPlain cs) :
    ∃ origin, read? (String.ofList (front ++ '"' :: (cs ++ '"' :: behind))) =
      some [(outer, .table origin [(inner, .string (String.ofList cs))])] := by
  obtain ⟨mark, front, hmark, h, rfl⟩ := h
  obtain ⟨lines, hlines, hread⟩ := h.exists_reading
  have hlong : 2 ≤ (front ++ '"' :: (cs ++ '"' :: behind)).length := by
    simp only [List.length_append, List.length_cons]
    omega
  obtain ⟨fuel, hfuel⟩ : ∃ fuel, (front ++ '"' :: (cs ++ '"' :: behind)).length + 1 =
      fuel + 1 + lines := ⟨(front ++ '"' :: (cs ++ '"' :: behind)).length - lines, by omega⟩
  obtain ⟨origin, path, more, hmore, heq⟩ := hread (cs ++ '"' :: behind) (fuel + 1)
  obtain ⟨rest, hrest, hends⟩ := hmore.ends
  obtain ⟨last, hlast, hnone⟩ := endLine?_rest hrest
  refine ⟨origin, ?_⟩
  rw [h.read?_eq hmark, hfuel, heq, string?_plain hcs h.isQuiet.calm, Option.bind_some, hends,
    Option.bind_some, hlast, Option.bind_some, readLines?, skipSpace_rest hnone]

/-- **The string that is read behind the opening quote is what the document assigns**, whatever else it
turns out to say. -/
theorem IsDocument.leaf?_read? (h : IsDocument outer inner front behind)
    (hread : read? (String.ofList (front ++ '"' :: cs)) = some t) :
    ∃ x rest, string? ('"' :: cs) = some (x, rest) ∧ t.leaf? outer inner = some (.string x) := by
  obtain ⟨mark, front, hmark, h, rfl⟩ := h
  obtain ⟨lines, hlines, hlong⟩ := h.exists_reading
  obtain ⟨fuel, hfuel⟩ : ∃ fuel, (front ++ '"' :: cs).length + 1 = fuel + lines := by
    have hpos : 1 ≤ (front ++ '"' :: cs).length := by
      rw [List.length_append, List.length_cons]
      omega
    exact ⟨(front ++ '"' :: cs).length + 1 - lines, by omega⟩
  obtain ⟨origin, path, more, hmore, heq⟩ := hlong cs fuel
  rw [h.read?_eq hmark, hfuel, heq] at hread
  obtain ⟨⟨x, rest⟩, hstring, hread⟩ := Option.bind_eq_some_iff.mp hread
  obtain ⟨⟨entries, _⟩, hentries, hread⟩ := Option.bind_eq_some_iff.mp hread
  obtain ⟨_, -, hread⟩ := Option.bind_eq_some_iff.mp hread
  have hx : entries.lookup inner = some (.string x) :=
    hmore.keeps hentries List.lookup_cons_self
  have hleaf : Table.leaf? outer inner [(outer, .table origin entries)] = some (.string x) := by
    unfold Table.leaf?
    rw [List.lookup_cons_self]
    exact hx
  exact ⟨x, rest, hstring, leaf?_readLines? hread hleaf⟩

end ServiceDiagram.Toml

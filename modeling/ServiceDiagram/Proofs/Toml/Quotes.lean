import ServiceDiagram.Proofs.Toml.Spacing
import ServiceDiagram.Proofs.Toml.Strings

/-!
# What a text between quotes is read as

A plain text between quotes is read as itself (`string?_plain`), and no other one is
(`isPlain_of_string?`), not even if the string that starts with it ends far behind it.  That is so
because spellings are never shorter than what they spell: an occurrence of some text in a spelling is
one in what it spells, no further from its start (`SpelledLines.exists_quote`).  If a text were spelled
by itself and more, an occurrence at its end would be one in the text, and so one in its spelling that is
closer to the start, and so on.

* `IsCalm cs`    neither a quote nor an escape starts a text;
* `IsQuiet cs`   the same, and a line end in front does not hide one.
-/

namespace ServiceDiagram.Toml

open Text (forall_head_cons forall_head_append)

variable {a b y z cs e chars body rest behind : List Char} {c : Char}

/-! ### occurrences in spellings -/

theorem cut_quote (h : e ++ body = a ++ '"' :: b) :
    (∃ z, a = e ++ z ∧ body = z ++ '"' :: b) ∨ ∃ z, e = a ++ '"' :: z ∧ b = z ++ body := by
  rcases List.append_eq_append_iff.mp h with ⟨z, ha, hbody⟩ | ⟨z, he, hb⟩
  · exact Or.inl ⟨z, ha, hbody⟩
  · cases z with
    | nil => exact Or.inl ⟨[], by rw [he, List.append_nil, List.append_nil], hb.symm⟩
    | cons d z =>
      obtain ⟨rfl, hb'⟩ := List.cons.inj hb
      exact Or.inr ⟨z, he, hb'⟩

theorem IsEscape.eq_quote (he : IsEscape e c) (h : e = a ++ '"' :: z) : a = [] ∧ z = [] ∧ c = '"' := by
  obtain ⟨hquote, rfl⟩ := he.quote (by rw [h]; exact List.mem_append_right a List.mem_cons_self)
  rw [h] at hquote
  cases a with
  | nil => exact ⟨rfl, (List.cons.inj hquote).2, rfl⟩
  | cons d a => exact absurd (List.cons.inj hquote).2 (List.append_ne_nil_of_right_ne_nil a (by simp))

/-- in a string on one line a quote is escaped -/
theorem Spelled.exists_quote (h : Spelled chars body) (hbody : body = a ++ '"' :: b) :
    ∃ a' b', chars = a' ++ '"' :: b' ∧ a'.length < a.length := by
  induction h generalizing a with
  | nil => exact absurd hbody.symm (List.append_ne_nil_of_right_ne_nil a (List.cons_ne_nil _ _))
  | @plain c chars body hc _ ih =>
    cases a with
    | nil =>
      have hquote : c ≠ '"' := (isPlainChar_iff.mp hc).1
      exact absurd (List.cons.inj hbody).1 hquote
    | cons d a =>
      obtain ⟨a', b', rfl, hless⟩ := ih (List.cons.inj hbody).2
      exact ⟨c :: a', b', rfl, Nat.succ_lt_succ hless⟩
  | @escape c e chars body he _ ih =>
    cases a with
    | nil => exact absurd (List.cons.inj hbody).1 (by decide)
    | cons d a =>
      rcases cut_quote (List.cons.inj hbody).2 with ⟨z, rfl, hz⟩ | ⟨z, hz, -⟩
      · obtain ⟨a', b', rfl, hless⟩ := ih hz
        refine ⟨c :: a', b', rfl, ?_⟩
        simp only [List.length_cons, List.length_append]
        omega
      · obtain ⟨-, -, rfl⟩ := he.eq_quote hz
        exact ⟨[], chars, rfl, Nat.succ_pos _⟩

theorem SpelledLines.exists_prefix (h : SpelledLines chars body) (hy : '\\' ∉ y)
    (hbody : body = y ++ b) : ∃ b', chars = y ++ b' := by
  induction y generalizing chars body with
  | nil => exact ⟨chars, rfl⟩
  | cons d y ih =>
    rw [List.mem_cons, not_or] at hy
    cases h with
    | nil => cases hbody
    | char _ hrest =>
      obtain ⟨rfl, hbody'⟩ := List.cons.inj hbody
      obtain ⟨b', rfl⟩ := ih hrest hy.2 hbody'
      exact ⟨b', rfl⟩
    | escape _ _ | joined _ _ => exact absurd (List.cons.inj hbody).1 hy.1

/-- **What follows a quote in a spelling follows one in what it spells**, no further from the start. -/
theorem SpelledLines.exists_quote (h : SpelledLines chars body) (hy : '\\' ∉ y)
    (hbody : body = a ++ '"' :: (y ++ b)) :
    ∃ a' b', chars = a' ++ '"' :: (y ++ b') ∧ a'.length ≤ a.length := by
  induction h generalizing a with
  | nil => exact absurd hbody.symm (List.append_ne_nil_of_right_ne_nil a (List.cons_ne_nil _ _))
  | @char c chars body _ hrest ih =>
    cases a with
    | nil =>
      obtain ⟨rfl, hrest'⟩ := List.cons.inj hbody
      obtain ⟨b', rfl⟩ := hrest.exists_prefix hy hrest'
      exact ⟨[], b', rfl, Nat.le_refl 0⟩
    | cons d a =>
      obtain ⟨a', b', rfl, hle⟩ := ih (List.cons.inj hbody).2
      exact ⟨c :: a', b', rfl, Nat.succ_le_succ hle⟩
  | @escape c e chars body he hrest ih =>
    cases a with
    | nil => exact absurd (List.cons.inj hbody).1 (by decide)
    | cons d a =>
      rcases cut_quote (List.cons.inj hbody).2 with ⟨z, rfl, hz⟩ | ⟨z, hz, hb⟩
      · obtain ⟨a', b', rfl, hle⟩ := ih hz
        refine ⟨c :: a', b', rfl, ?_⟩
        have hpos := List.length_pos_iff.mpr he.ne_nil
        simp only [List.length_cons, List.length_append]
        omega
      · obtain ⟨-, rfl, rfl⟩ := he.eq_quote hz
        obtain ⟨b', rfl⟩ := hrest.exists_prefix hy hb.symm
        exact ⟨[], b', rfl, Nat.zero_le _⟩
  | @joined blanks chars body hblanks _ ih =>
    cases a with
    | nil => exact absurd (List.cons.inj hbody).1 (by decide)
    | cons d a =>
      rcases cut_quote (List.cons.inj hbody).2 with ⟨z, rfl, hz⟩ | ⟨z, hz, -⟩
      · obtain ⟨a', b', hchars, hle⟩ := ih hz
        refine ⟨a', b', hchars, ?_⟩
        simp only [List.length_cons, List.length_append]
        omega
      · refine absurd ?_ hblanks
        rw [hz]
        exact List.mem_append_right a List.mem_cons_self

/-! ### texts that would spell themselves and more -/

/-- what holds of no text unless it holds of a shorter one holds of none -/
theorem not_of_shorter {p : List Char → Prop} (h : ∀ a, p a → ∃ a', p a' ∧ a'.length < a.length)
    (a : List Char) : ¬ p a := by
  intro ha
  induction hn : a.length using Nat.strong_induction_on generalizing a with
  | _ n ih =>
    obtain ⟨a', ha', hless⟩ := h a ha
    exact ih a'.length (hn ▸ hless) a' ha' rfl

theorem Spelled.ne_append (h : Spelled chars body) : body ≠ chars ++ '"' :: z := by
  intro hbody
  refine not_of_shorter (p := fun a => ∃ b, body = a ++ '"' :: b) ?_ chars ⟨z, hbody⟩
  rintro a ⟨b, ha⟩
  obtain ⟨a', b', hchars, hless⟩ := h.exists_quote ha
  refine ⟨a', ⟨b' ++ '"' :: z, ?_⟩, hless⟩
  rw [hbody, hchars, List.append_assoc, List.cons_append]

/-- on several lines a text with two quotes in front is not spelled by itself with a quote and some `y`
behind it, with a line end in front or not: that `y` would follow an earlier quote, too -/
theorem SpelledLines.ne_append {front r : List Char} (h : SpelledLines ('"' :: '"' :: r) body)
    (hfront : '"' ∉ front) (hy : '\\' ∉ y) (hhead : ∀ d ∈ y.head?, d ≠ '"') (hne : y ≠ [])
    (hr : ¬ y <+: r) : front ++ body ≠ r ++ '"' :: (y ++ z) := by
  intro hbody
  refine not_of_shorter (p := fun a => ∃ b, front ++ body = a ++ '"' :: (y ++ b)) ?_ r ⟨z, hbody⟩
  rintro a ⟨b, ha⟩
  rcases cut_quote ha with ⟨a₁, rfl, ha₁⟩ | ⟨a₁, ha₁, -⟩
  · obtain ⟨a', b', hchars, hle⟩ := h.exists_quote hy ha₁
    match a', hchars, hle with
    | [], hchars, _ =>
      cases y with
      | nil => exact absurd rfl hne
      | cons d y => exact absurd (List.cons.inj (List.cons.inj hchars).2).1.symm (hhead d rfl)
    | [_], hchars, _ => exact absurd ⟨b', (List.cons.inj (List.cons.inj hchars).2).2.symm⟩ hr
    | _ :: _ :: a', hchars, hle =>
      have hrest : r = a' ++ '"' :: (y ++ b') := (List.cons.inj (List.cons.inj hchars).2).2
      refine ⟨a', ⟨b' ++ '"' :: (y ++ z), ?_⟩, ?_⟩
      · rw [hbody]
        nth_rewrite 1 [hrest]
        simp only [List.append_assoc, List.cons_append]
      · simp only [List.length_cons, List.length_append] at hle ⊢
        omega
  · refine absurd ?_ hfront
    rw [ha₁]
    exact List.mem_append_right a List.mem_cons_self

/-! ### what is read between quotes -/

def IsCalm (cs : List Char) : Prop := ∀ c ∈ cs.head?, c ≠ '"' ∧ c ≠ '\\'

/-- **Neither a quote nor an escape starts a text**, with a line end in front or not -/
structure IsQuiet (cs : List Char) : Prop where
  calm : IsCalm cs
  line : ∀ c ∈ cs.head?, c = '\n' ∨ c = '\r' →
    ∃ ending rest, IsLineEnd ending ∧ cs = ending ++ rest ∧ IsCalm rest

theorem isCalm_of_not_startsWord (h : ∀ c ∈ cs.head?, startsWord c = false) : IsCalm cs := by
  intro c hc
  have hspace := h c hc
  constructor
  · rintro rfl
    cases hspace
  · rintro rfl
    cases hspace

/-- **Space is quiet**, in front of a word that starts with no mark. -/
theorem isQuiet_space {space : List Char} (hspace : IsSpace space) (hcs : IsCalm cs)
    (hline : ∀ c ∈ cs.head?, ¬ (c = '\n' ∨ c = '\r')) : IsQuiet (space ++ cs) := by
  refine ⟨forall_head_append (isCalm_of_not_startsWord hspace.head) hcs, ?_⟩
  obtain ⟨lines, blanks, hlines, hblanks, rfl⟩ := hspace
  have hblank : ∀ {blanks}, AreBlank blanks → ∀ c ∈ blanks.head?, ¬ (c = '\n' ∨ c = '\r') := by
    rintro blanks hblanks c hc (rfl | rfl)
    · cases hblanks _ (List.mem_of_mem_head? hc)
    · cases hblanks _ (List.mem_of_mem_head? hc)
  intro c hc hend
  cases hlines with
  | nil => exact absurd hend (forall_head_append (hblank hblanks) hline c hc)
  | @line blanks' comment ending lines hblanks' hcomment hending hlines =>
    cases blanks' with
    | cons b blanks' => exact absurd hend (hblank hblanks' c hc)
    | nil =>
      rcases hcomment with rfl | ⟨body, rfl, -⟩
      · refine ⟨ending, lines ++ (blanks ++ cs), hending, ?_, ?_⟩
        · simp only [List.nil_append, List.append_assoc]
        · exact forall_head_append (isCalm_of_not_startsWord hlines.head)
            (forall_head_append (isCalm_of_not_startsWord hblanks.head) hcs)
      · obtain rfl := Option.some.inj hc
        exact absurd hend (by decide)

theorem IsRest.isQuiet (h : IsRest rest) : IsQuiet rest := by
  obtain ⟨lines, blanks, comment, hlines, hblanks, hcomment, rfl⟩ := h
  rw [← List.append_assoc]
  refine isQuiet_space ⟨lines, blanks, hlines, hblanks, rfl⟩
    (isCalm_of_not_startsWord hcomment.head) ?_
  rcases hcomment with rfl | ⟨body, rfl, -⟩
  · exact nofun
  · exact forall_head_cons (by decide)

/-- **A plain text between quotes is read as itself.** -/
theorem string?_plain (hcs : IsPlain cs) (hrest : IsCalm rest) :
    string? ('"' :: (cs ++ '"' :: rest)) = some (String.ofList cs, rest) := by
  have hread : ∀ fuel, cs.length < fuel →
      basic? fuel [] (cs ++ '"' :: rest) = some (String.ofList cs, rest) :=
    fun fuel hfuel => basic?_spelled hcs.spelled hfuel rest
  rw [string?]
  · refine hread _ ?_
    simp only [List.length_cons, List.length_append]
    omega
  · -- three quotes need one that is not plain, or one behind the string
    intro more he
    cases cs with
    | nil =>
      have hthird : rest = '"' :: more := (List.cons.inj he).2
      exact (hrest '"' (by rw [hthird]; rfl)).1 rfl
    | cons c cs =>
      have hc := (isPlainChar_iff.mp (hcs c List.mem_cons_self)).1
      exact hc (List.cons.inj he).1

theorem exists_dropLineEnd (cs : List Char) :
    ∃ front, cs = front ++ dropLineEnd cs ∧ (front = [] ∨ IsLineEnd front) := by
  unfold dropLineEnd
  cases hend : lineEnd? cs with
  | none => exact ⟨[], rfl, Or.inl rfl⟩
  | some rest =>
    unfold lineEnd? at hend
    split at hend
    · obtain rfl := Option.some.inj hend
      exact ⟨['\n'], rfl, Or.inr (Or.inl rfl)⟩
    · obtain rfl := Option.some.inj hend
      exact ⟨['\r', '\n'], rfl, Or.inr (Or.inr rfl)⟩
    · cases hend

theorem SpelledLines.not_isCalm (h : SpelledLines ('"' :: chars) body) (rest : List Char) :
    ¬ IsCalm (body ++ rest) := by
  intro hcalm
  cases h with
  | char _ _ => exact (hcalm _ rfl).1 rfl
  | escape _ _ | joined _ _ => exact (hcalm _ rfl).2 rfl

theorem IsLineEnd.not_mem {front : List Char} (h : IsLineEnd front) : '"' ∉ front ∧ '\\' ∉ front := by
  rcases h with rfl | rfl <;> decide

theorem IsLineEnd.eq_of_head {front ending : List Char} (h : IsLineEnd front) (h' : IsLineEnd ending)
    (hhead : c ∈ front.head?) (hhead' : c ∈ ending.head?) : front = ending := by
  rcases h with rfl | rfl <;> rcases h' with rfl | rfl <;> cases hhead <;> cases hhead' <;> rfl

theorem IsQuiet.exists_calm (h : IsQuiet cs) {front : List Char} (hfront : IsLineEnd front)
    (hhead : c ∈ front.head?) (hcs : c ∈ cs.head?) : ∃ rest, cs = front ++ rest ∧ IsCalm rest := by
  have hc : c = '\n' ∨ c = '\r' := by
    rcases hfront with rfl | rfl
    · exact Or.inl (Option.some.inj hhead).symm
    · exact Or.inr (Option.some.inj hhead).symm
  obtain ⟨ending, rest, hending, rfl, hcalm⟩ := h.line c hcs hc
  have hhead' : c ∈ ending.head? := by
    rcases hending with rfl | rfl <;> exact hcs
  rw [hfront.eq_of_head hending hhead hhead']
  exact ⟨rest, rfl, hcalm⟩

theorem IsQuiet.isCalm (h : IsQuiet cs) {front : List Char} (hfront : front = [] ∨ IsLineEnd front)
    (hcs : cs = front ++ rest) : IsCalm rest := by
  rcases hfront with rfl | hfront
  · rw [hcs] at h
    exact h.calm
  · obtain ⟨c, hc, hhead⟩ : ∃ c, c ∈ front.head? ∧ c ∈ cs.head? := by
      rcases hfront with rfl | rfl <;> exact ⟨_, rfl, by rw [hcs]; rfl⟩
    obtain ⟨rest', hcs', hcalm⟩ := h.exists_calm hfront hc hhead
    rwa [List.append_cancel_left (hcs.symm.trans hcs')]

theorem exists_longer {front tail : List Char} (h : a ++ b = front ++ tail)
    (hless : front.length < a.length) : ∃ d z, a = front ++ d :: z ∧ tail = d :: z ++ b := by
  rcases List.append_eq_append_iff.mp h with ⟨z, rfl, -⟩ | ⟨z, rfl, htail⟩
  · rw [List.length_append] at hless
    omega
  · cases z with
    | nil =>
      rw [List.append_nil] at hless
      exact absurd hless (Nat.lt_irrefl _)
    | cons d z => exact ⟨d, z, rfl, htail⟩

/-- a string of several lines does not hold a text with two quotes in front that starts with it: it
would end behind the text, and what stands there in front of its end would stand in the text before -/
theorem not_spelledLines_quotes {front r more : List Char} (hquiet : IsQuiet rest)
    (hfront : front = [] ∨ IsLineEnd front)
    (hlines : r ++ '"' :: rest = front ++ (body ++ '"' :: '"' :: '"' :: more)) :
    ¬ SpelledLines ('"' :: '"' :: r) body := by
  intro hbody
  have hlength : r.length + 2 ≤ body.length := hbody.length_le
  obtain ⟨d, y, hy, hcut⟩ : ∃ d y, front ++ body = r ++ d :: y ∧
      '"' :: rest = d :: y ++ '"' :: '"' :: '"' :: more := by
    refine exists_longer ?_ ?_
    · rw [List.append_assoc, ← hlines]
    · rw [List.length_append]
      omega
  obtain ⟨rfl, hrest⟩ := List.cons.inj hcut
  have hlong : front.length < y.length := by
    have hsame := congrArg List.length hy
    simp only [List.length_append, List.length_cons] at hsame
    omega
  have hmarks : '"' ∉ front ∧ '\\' ∉ front := by
    rcases hfront with rfl | hfront
    · exact ⟨List.not_mem_nil, List.not_mem_nil⟩
    · exact hfront.not_mem
  by_cases hprefix : front <+: rest
  · -- the text would begin with the line end and one character behind it, which is no mark
    obtain ⟨tail, htail⟩ := hprefix
    have hcalm : IsCalm tail := hquiet.isCalm hfront htail.symm
    obtain ⟨d, z, rfl, rfl⟩ := exists_longer (hrest.symm.trans htail.symm) hlong
    obtain ⟨hquote, hslash⟩ := hcalm d rfl
    have hstart : ¬ front ++ [d] <+: r := by
      rintro ⟨b', rfl⟩
      rw [List.append_assoc, List.append_assoc] at hlines
      refine hbody.not_isCalm ('"' :: '"' :: '"' :: more) ?_
      rw [← List.append_cancel_left hlines]
      exact fun c hc => hcalm c hc
    refine hbody.ne_append hmarks.1 ?_ ?_ (List.append_ne_nil_of_right_ne_nil _ (by simp)) hstart
      (z := z) ?_
    · rw [List.mem_append, List.mem_singleton, not_or]
      exact ⟨hmarks.2, Ne.symm hslash⟩
    · intro c hc
      cases front with
      | nil => exact Option.some.inj hc ▸ hquote
      | cons f front =>
        obtain rfl := Option.some.inj hc
        rintro rfl
        exact hmarks.1 List.mem_cons_self
    · rw [hy, List.append_assoc, List.singleton_append]
  · -- the text would begin with the line end that is dropped, but what is behind it does not
    cases y with
    | nil => exact absurd hlong (Nat.not_lt_zero _)
    | cons d y =>
      obtain ⟨hquote, hslash⟩ := hquiet.calm d (by rw [hrest]; rfl)
      have hstart : ¬ [d] <+: r := by
        rintro ⟨b', rfl⟩
        rcases hfront with rfl | hfront
        · exact hprefix (List.nil_prefix)
        · have hd : d ∈ front.head? := by
            rcases hfront with rfl | rfl <;> exact congrArg List.head? hlines.symm
          obtain ⟨rest', hrest', -⟩ := hquiet.exists_calm hfront hd (by rw [hrest]; rfl)
          exact hprefix ⟨rest', hrest'.symm⟩
      refine hbody.ne_append hmarks.1 ?_ ?_ (List.cons_ne_nil d []) hstart (z := y) hy
      · rw [List.mem_singleton]
        exact Ne.symm hslash
      · intro c hc
        exact Option.some.inj hc ▸ hquote

/-- **Only a plain text between quotes is read as itself**, where no quote and no escape follows. -/
theorem isPlain_of_string? {more : List Char} (hquiet : IsQuiet rest)
    (h : string? ('"' :: (cs ++ '"' :: rest)) = some (String.ofList cs, more)) : IsPlain cs := by
  generalize hx : String.ofList cs = x at h
  rw [string?.eq_def] at h
  split at h
  · next lines he =>
    have hopen : cs ++ '"' :: rest = '"' :: '"' :: lines := (List.cons.inj he).2
    obtain ⟨front, hfront, hkind⟩ := exists_dropLineEnd lines
    obtain ⟨chars, body, hbody, hdrop, rfl⟩ := exists_spelledLines h
    obtain rfl : cs = chars := String.ofList_injective hx
    rw [hdrop] at hfront
    exfalso
    -- a text, one quote, and two quotes with a text: all else cannot be
    rcases cs with _ | ⟨c, _ | ⟨d, r⟩⟩
    · have hrest : rest = '"' :: lines := (List.cons.inj hopen).2
      exact (hquiet.calm '"' (by rw [hrest]; rfl)).1 rfl
    · obtain ⟨rfl, hopen'⟩ := List.cons.inj hopen
      exact hbody.not_isCalm _ (hquiet.isCalm hkind ((List.cons.inj hopen').2.trans hfront))
    · obtain ⟨rfl, hopen'⟩ := List.cons.inj hopen
      obtain ⟨rfl, hopen''⟩ := List.cons.inj hopen'
      exact not_spelledLines_quotes hquiet hkind (hopen''.trans hfront) hbody
  · next he => cases (List.cons.inj he).1
  · next he =>
    obtain rfl := (List.cons.inj he).2
    obtain ⟨chars, body, hbody, hcut, rfl⟩ := exists_spelled h
    obtain rfl : cs = chars := String.ofList_injective hx
    have hle : body.length ≤ cs.length := by
      by_contra hlonger
      obtain ⟨d, z, rfl, hz⟩ := exists_longer hcut.symm (Nat.lt_of_not_le hlonger)
      obtain rfl : '"' = d := (List.cons.inj hz).1
      exact hbody.ne_append rfl
    exact (hbody.eq_of_length_le hle).2
  · next he => cases (List.cons.inj he).1
  · cases h

end ServiceDiagram.Toml

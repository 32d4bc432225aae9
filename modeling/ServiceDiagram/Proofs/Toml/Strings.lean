import Mathlib.Data.List.TakeWhile
import ServiceDiagram.Proofs.Text.Hex
import ServiceDiagram.Toml.Lexeme

/-!
# How strings are spelled

A string on one line is spelled by its characters, each as it is or by an escape (`basic?_spelled`,
`exists_spelled`).  One of several lines may also have lines that are joined, and quotes as they are
(`exists_spelledLines`).  No spelling is shorter than what it spells, and only what may stand as it is
spells itself (`Spelled.eq_of_length_le`).

* `IsPlain cs`                 a text that a string may hold as it is;
* `IsEscape e c`               behind a backslash, `e` spells the character `c`;
* `Spelled chars body`         a string on one line spells `chars` as `body`;
* `SpelledLines chars body`    a string of several lines does.
-/

namespace ServiceDiagram.Toml

variable {c : Char} {cs e chars body spelt rest : List Char} {x : String} {fuel k : Nat}

def isPlainChar (c : Char) : Bool := c != '"' && c != '\\' && !isControl c

/-- **A text that a string may hold as it is** -/
def IsPlain (cs : List Char) : Prop := ∀ c ∈ cs, isPlainChar c = true

instance (cs : List Char) : Decidable (IsPlain cs) :=
  decidable_of_iff (cs.all isPlainChar = true) List.all_eq_true

theorem isPlainChar_iff : isPlainChar c = true ↔ c ≠ '"' ∧ c ≠ '\\' ∧ isControl c = false := by
  rw [isPlainChar, Bool.and_eq_true, Bool.and_eq_true, bne_iff_ne, bne_iff_ne, Bool.not_eq_true',
    and_assoc]

/-! ### escapes -/

/-- what stands behind a backslash for a character; a quote stands for itself only -/
structure IsEscape (e : List Char) (c : Char) : Prop where
  ne_nil : e ≠ []
  read : ∀ rest, escape? (e ++ rest) = some (c, rest)
  quote : '"' ∈ e → e = ['"'] ∧ c = '"'

theorem exists_hexEscape (h : hexEscape? k cs = some (c, rest)) :
    ∃ ds, cs = ds ++ rest ∧ '"' ∉ ds ∧ ∀ rest', hexEscape? k (ds ++ rest') = some (c, rest') := by
  unfold hexEscape? at h
  split at h
  · cases h
  · next hlong =>
    obtain ⟨d, hd, hpair⟩ := Option.map_eq_some_iff.mp h
    obtain ⟨rfl, rfl⟩ := Prod.mk.inj hpair
    have hlength : (cs.take k).length = k := List.length_take_of_le (Nat.le_of_not_lt hlong)
    refine ⟨cs.take k, (List.take_append_drop k cs).symm, fun hquote => ?_, fun rest' => ?_⟩
    · obtain ⟨n, hn, -⟩ := Option.bind_eq_some_iff.mp hd
      have hdigits := Text.isSome_hexNumber?.mp (Option.isSome_of_eq_some hn)
      exact absurd (Text.isSome_hexValue?.mpr (hdigits _ hquote)) (by decide)
    · have hshort : ¬ (cs.take k ++ rest').length < k := by
        rw [List.length_append, hlength]
        omega
      rw [hexEscape?, if_neg hshort, List.take_left' hlength, hd, List.drop_left' hlength]
      rfl

/-- **An escape is read whatever follows it.** -/
theorem exists_escape (h : escape? cs = some (c, rest)) : ∃ e, IsEscape e c ∧ cs = e ++ rest := by
  unfold escape? at h
  split at h
  case h_9 | h_10 | h_11 =>
    obtain ⟨ds, rfl, hnone, hread⟩ := exists_hexEscape h
    refine ⟨_ :: ds, ⟨List.cons_ne_nil _ _, ?_, fun hquote => ?_⟩, rfl⟩
    · exact hread
    · rcases List.mem_cons.mp hquote with hquote | hquote
      · exact absurd hquote (by decide)
      · exact absurd hquote hnone
  case h_12 => cases h
  all_goals
    cases h
    exact ⟨[_], ⟨List.cons_ne_nil _ _, fun _ => rfl, by decide⟩, rfl⟩

/-! ### strings on one line -/

/-- **The spellings of a string on one line** -/
inductive Spelled : List Char → List Char → Prop
  | nil : Spelled [] []
  | plain {c : Char} {chars body : List Char} (hc : isPlainChar c = true)
      (hrest : Spelled chars body) : Spelled (c :: chars) (c :: body)
  | escape {c : Char} {e chars body : List Char} (he : IsEscape e c) (hrest : Spelled chars body) :
      Spelled (c :: chars) ('\\' :: (e ++ body))

theorem IsPlain.spelled (h : IsPlain cs) : Spelled cs cs := by
  induction cs with
  | nil => exact .nil
  | cons c cs ih =>
    rw [IsPlain, List.forall_mem_cons] at h
    exact .plain h.1 (ih h.2)

theorem Spelled.length_le (h : Spelled chars body) : chars.length ≤ body.length := by
  induction h with
  | nil => exact Nat.le_refl 0
  | plain _ _ ih => exact Nat.succ_le_succ ih
  | escape _ _ ih =>
    simp only [List.length_cons, List.length_append]
    omega

/-- **A spelling that is no longer than what it spells is the same.** -/
theorem Spelled.eq_of_length_le (h : Spelled chars body) (hle : body.length ≤ chars.length) :
    body = chars ∧ IsPlain chars := by
  induction h with
  | nil => exact ⟨rfl, nofun⟩
  | plain hc _ ih =>
    obtain ⟨rfl, hplain⟩ := ih (Nat.le_of_succ_le_succ hle)
    exact ⟨rfl, List.forall_mem_cons.mpr ⟨hc, hplain⟩⟩
  | escape he hrest _ =>
    have hlonger := hrest.length_le
    have hpos := List.length_pos_iff.mpr he.ne_nil
    simp only [List.length_cons, List.length_append] at hle
    omega

theorem basic?_plain (hc : isPlainChar c = true) (fuel : Nat) (spelt rest : List Char) :
    basic? (fuel + 1) spelt (c :: rest) = basic? fuel (c :: spelt) rest := by
  obtain ⟨hquote, hslash, hcontrol⟩ := isPlainChar_iff.mp hc
  rw [basic?]
  · rw [hcontrol, if_neg Bool.false_ne_true]
  · exact fun he => hquote he
  · exact fun he => hslash he

/-- **A string is read as what it spells.** -/
theorem basic?_spelled (h : Spelled chars body) (hfuel : body.length < fuel) (rest : List Char) :
    basic? fuel spelt (body ++ '"' :: rest) = some (String.ofList (spelt.reverse ++ chars), rest) := by
  induction h generalizing fuel spelt with
  | nil =>
    obtain ⟨fuel, rfl⟩ : ∃ n, fuel = n + 1 := ⟨fuel - 1, by omega⟩
    rw [List.append_nil]
    rfl
  | @plain c chars body hc _ ih =>
    obtain ⟨fuel, rfl⟩ : ∃ n, fuel = n + 1 := ⟨fuel - 1, by omega⟩
    rw [List.cons_append, basic?_plain hc, ih (Nat.lt_of_succ_lt_succ hfuel), List.reverse_cons,
      List.append_assoc, List.singleton_append]
  | @escape c e chars body he _ ih =>
    obtain ⟨fuel, rfl⟩ : ∃ n, fuel = n + 1 := ⟨fuel - 1, by omega⟩
    have hless : body.length < fuel := by
      simp only [List.length_cons, List.length_append] at hfuel
      omega
    rw [List.cons_append, List.append_assoc, basic?]
    simp only [he.read]
    rw [ih hless, List.reverse_cons, List.append_assoc, List.singleton_append]

/-- **What is read as a string is spelled**, up to its closing quote. -/
theorem exists_spelled (h : basic? fuel spelt cs = some (x, rest)) :
    ∃ chars body, Spelled chars body ∧ cs = body ++ '"' :: rest ∧
      x = String.ofList (spelt.reverse ++ chars) := by
  induction fuel generalizing spelt cs with
  | zero => cases h
  | succ fuel ih =>
    cases cs with
    | nil => cases h
    | cons c cs =>
      by_cases hquote : c = '"'
      · subst hquote
        obtain ⟨rfl, rfl⟩ := Prod.mk.inj (Option.some.inj h)
        exact ⟨[], [], .nil, rfl, by rw [List.append_nil]⟩
      · by_cases hslash : c = '\\'
        · subst hslash
          rw [basic?] at h
          split at h
          · next c rest' hread =>
            obtain ⟨e, he, rfl⟩ := exists_escape hread
            obtain ⟨chars, body, hbody, rfl, rfl⟩ := ih h
            refine ⟨c :: chars, _, .escape he hbody, ?_, ?_⟩
            · rw [List.cons_append, List.append_assoc]
            · rw [List.reverse_cons, List.append_assoc, List.singleton_append]
          · cases h
        · rw [basic?] at h
          · split at h
            · cases h
            · next hcontrol =>
              have hc : isPlainChar c = true :=
                isPlainChar_iff.mpr ⟨hquote, hslash, Bool.eq_false_iff.mpr hcontrol⟩
              obtain ⟨chars, body, hbody, rfl, rfl⟩ := ih h
              refine ⟨c :: chars, _, .plain hc hbody, rfl, ?_⟩
              rw [List.reverse_cons, List.append_assoc, List.singleton_append]
          · exact hquote
          · exact hslash

/-! ### strings of several lines -/

/-- **The spellings of a string of several lines**, line ends and single quotes among its characters -/
inductive SpelledLines : List Char → List Char → Prop
  | nil : SpelledLines [] []
  | char {c : Char} {chars body : List Char} (hc : c ≠ '\\') (hrest : SpelledLines chars body) :
      SpelledLines (c :: chars) (c :: body)
  | escape {c : Char} {e chars body : List Char} (he : IsEscape e c)
      (hrest : SpelledLines chars body) : SpelledLines (c :: chars) ('\\' :: (e ++ body))
  | joined {blanks chars body : List Char} (hblanks : '"' ∉ blanks)
      (hrest : SpelledLines chars body) : SpelledLines chars ('\\' :: (blanks ++ body))

theorem SpelledLines.length_le (h : SpelledLines chars body) : chars.length ≤ body.length := by
  induction h with
  | nil => exact Nat.le_refl 0
  | char _ _ ih => exact Nat.succ_le_succ ih
  | escape _ _ ih | joined _ _ ih =>
    simp only [List.length_cons, List.length_append]
    omega

theorem spelledLines_quotes (n : Nat) :
    SpelledLines (List.replicate n '"') (List.replicate n '"') := by
  induction n with
  | zero => exact .nil
  | succ n ih => exact .char (by decide) ih

/-- a text without a quote is passed over -/
def Skips (cs rest : List Char) : Prop := ∃ front, cs = front ++ rest ∧ '"' ∉ front

theorem Skips.trans {more : List Char} (h : Skips cs rest) (h' : Skips rest more) : Skips cs more := by
  obtain ⟨front, rfl, hfront⟩ := h
  obtain ⟨front', rfl, hfront'⟩ := h'
  refine ⟨front ++ front', by rw [List.append_assoc], fun hquote => ?_⟩
  exact (List.mem_append.mp hquote).elim hfront hfront'

theorem skips_skipBlanks (cs : List Char) : Skips cs (skipBlanks cs) := by
  refine ⟨cs.takeWhile isBlank, List.takeWhile_append_dropWhile.symm, fun hquote => ?_⟩
  exact absurd (List.mem_takeWhile_imp hquote) (by decide)

theorem skips_of_lineEnd? (h : lineEnd? cs = some rest) : Skips cs rest := by
  unfold lineEnd? at h
  split at h
  · obtain rfl := Option.some.inj h
    exact ⟨['\n'], rfl, by decide⟩
  · obtain rfl := Option.some.inj h
    exact ⟨['\r', '\n'], rfl, by decide⟩
  · cases h

theorem skips_skipBreaks (fuel : Nat) (cs : List Char) : Skips cs (skipBreaks fuel cs) := by
  induction fuel generalizing cs with
  | zero => exact ⟨[], rfl, List.not_mem_nil⟩
  | succ fuel ih =>
    rw [skipBreaks]
    split
    · next rest hend => exact ((skips_skipBlanks cs).trans (skips_of_lineEnd? hend)).trans (ih rest)
    · exact skips_skipBlanks cs

theorem skips_of_joinedLine? (h : joinedLine? cs = some rest) : Skips cs rest := by
  obtain ⟨behind, hend, rfl⟩ := Option.map_eq_some_iff.mp h
  exact ((skips_skipBlanks cs).trans (skips_of_lineEnd? hend)).trans (skips_skipBreaks _ behind)

/-- a string of several lines ends with three quotes, and up to two in front of them are its own -/
theorem closing?_eq (h : closing? '"' spelt cs = some (x, rest)) :
    ∃ n, cs = List.replicate n '"' ++ '"' :: '"' :: '"' :: rest ∧
      x = String.ofList (spelt.reverse ++ List.replicate n '"') := by
  have hrun : ∃ n tail, (cs.takeWhile (· == '"')).length = n ∧ cs = List.replicate n '"' ++ tail := by
    have hcut := List.takeWhile_append_dropWhile (p := (· == '"')) (l := cs)
    have hall : cs.takeWhile (· == '"') = List.replicate (cs.takeWhile (· == '"')).length '"' :=
      List.eq_replicate_of_mem fun c hc =>
        beq_iff_eq.mp (List.mem_takeWhile_imp (p := (· == '"')) hc)
    exact ⟨_, _, rfl, by rw [← hall, hcut]⟩
  obtain ⟨n, tail, hn, hcs⟩ := hrun
  simp only [closing?, hn] at h
  split at h
  · cases h
  · next hthree =>
    obtain ⟨rfl, rfl⟩ := Prod.mk.inj (Option.some.inj h)
    obtain ⟨more, hmore⟩ : ∃ more, n = min (n - 3) 2 + 3 + more := ⟨n - 3 - min (n - 3) 2, by omega⟩
    have hsplit : cs = List.replicate (min (n - 3) 2 + 3) '"' ++ (List.replicate more '"' ++ tail) := by
      rw [← List.append_assoc, List.replicate_append_replicate, ← hmore]
      exact hcs
    refine ⟨min (n - 3) 2, ?_, rfl⟩
    have hdrop : cs.drop (min (n - 3) 2 + 3) = List.replicate more '"' ++ tail := by
      rw [hsplit, List.drop_left' List.length_replicate]
    rw [hdrop, hsplit, ← List.replicate_append_replicate, List.append_assoc]
    rfl

/-- **What is read as a string of several lines is spelled**, up to its three closing quotes. -/
theorem exists_spelledLines (h : multiline? '"' true fuel spelt cs = some (x, rest)) :
    ∃ chars body, SpelledLines chars body ∧ cs = body ++ '"' :: '"' :: '"' :: rest ∧
      x = String.ofList (spelt.reverse ++ chars) := by
  induction fuel generalizing spelt cs with
  | zero => cases h
  | succ fuel ih =>
    rw [multiline?.eq_def] at h
    dsimp only at h
    split at h
    · next hclosing =>
      cases h
      obtain ⟨n, hcs, hx⟩ := closing?_eq hclosing
      exact ⟨_, _, spelledLines_quotes n, hcs, hx⟩
    · split at h
      · cases h
      · next c tail _ =>
        have hchar : c ≠ '\\' → multiline? '"' true fuel (c :: spelt) tail = some (x, rest) →
            ∃ chars body, SpelledLines chars body ∧ c :: tail = body ++ '"' :: '"' :: '"' :: rest ∧
              x = String.ofList (spelt.reverse ++ chars) := by
          intro hc h
          obtain ⟨chars, body, hbody, rfl, rfl⟩ := ih h
          refine ⟨c :: chars, _, .char hc hbody, rfl, ?_⟩
          rw [List.reverse_cons, List.append_assoc, List.singleton_append]
        split at h
        · next hslash =>
          obtain rfl : c = '\\' := beq_iff_eq.mp hslash
          split at h
          · next rest' hjoined =>
            obtain ⟨blanks, rfl, hblanks⟩ := skips_of_joinedLine? hjoined
            obtain ⟨chars, body, hbody, rfl, rfl⟩ := ih h
            refine ⟨chars, _, .joined hblanks hbody, ?_, rfl⟩
            rw [List.cons_append, List.append_assoc]
          · split at h
            · next d rest' hread =>
              obtain ⟨e, he, rfl⟩ := exists_escape hread
              obtain ⟨chars, body, hbody, rfl, rfl⟩ := ih h
              refine ⟨d :: chars, _, .escape he hbody, ?_, ?_⟩
              · rw [List.cons_append, List.append_assoc]
              · rw [List.reverse_cons, List.append_assoc, List.singleton_append]
            · cases h
        · next hslash =>
          have hc : c ≠ '\\' := fun he => hslash (beq_iff_eq.mpr he)
          split at h
          · split at h
            · cases h
            · exact hchar hc h
          · split at h
            · cases h
            · exact hchar hc h

end ServiceDiagram.Toml

import ServiceDiagram.Proofs.Toml.Spacing
import ServiceDiagram.Proofs.Toml.Strings

/-!
# How keys are written

A key is written bare or between quotes, and a dotted key with blanks around its dots; an entry is a
dotted key with an equals sign behind it, and a header is one between brackets.  Whatever follows, the
readers give the keys and stop behind them (`key?_path`), so an entry is as its value is read
(`entry?_eq`, `members?_eq`), and a header opens its table (`line?_header`).

* `KeySpells key w`     `w` is a key as it is written;
* `PathSpells path w`   a dotted key;
* `IsEntry path e`      a dotted key, an equals sign, and blanks.
-/

namespace ServiceDiagram.Toml

variable {key : String} {path : List String} {c : Char} {w w' blanks blanks' rest cs e space : List Char}
  {fuel depth : Nat} {d : Draft} {t : Table}

/-! ### keys -/

/-- **A key as it is written** -/
inductive KeySpells : String → List Char → Prop
  | bare {w : List Char} (hne : w ≠ []) (hw : ∀ c ∈ w, isBare c = true) :
      KeySpells (String.ofList w) w
  | basic {chars body : List Char} (hbody : Spelled chars body) :
      KeySpells (String.ofList chars) ('"' :: (body ++ ['"']))
  | literal {w : List Char} (hw : ∀ c ∈ w, c ≠ '\'' ∧ isControl c = false) :
      KeySpells (String.ofList w) ('\'' :: (w ++ ['\'']))

/-- **A dotted key as it is written** -/
inductive PathSpells : List String → List Char → Prop
  | last {key : String} {w : List Char} (hkey : KeySpells key w) : PathSpells [key] w
  | dot {key : String} {path : List String} {w blanks blanks' w' : List Char} (hkey : KeySpells key w)
      (hblanks : AreBlank blanks) (hblanks' : AreBlank blanks') (hpath : PathSpells path w') :
      PathSpells (key :: path) (w ++ (blanks ++ '.' :: (blanks' ++ w')))

/-- **A dotted key with its equals sign**, in front of a value -/
def IsEntry (path : List String) (e : List Char) : Prop :=
  ∃ w blanks blanks', PathSpells path w ∧ AreBlank blanks ∧ AreBlank blanks' ∧
    e = w ++ (blanks ++ '=' :: blanks')

def startsKey (c : Char) : Bool := isBare c || c == '"' || c == '\''

theorem KeySpells.exists_head (h : KeySpells key w) : ∃ c tail, w = c :: tail ∧ startsKey c = true := by
  cases h with
  | bare hne hw =>
    cases w with
    | nil => exact absurd rfl hne
    | cons c w =>
      have hc := hw c List.mem_cons_self
      exact ⟨c, w, rfl, by rw [startsKey, hc, Bool.true_or, Bool.true_or]⟩
  | basic _ => exact ⟨_, _, rfl, rfl⟩
  | literal _ => exact ⟨_, _, rfl, rfl⟩

theorem PathSpells.exists_head (h : PathSpells path w) : ∃ c tail, w = c :: tail ∧ startsKey c = true := by
  cases h with
  | last hkey => exact hkey.exists_head
  | dot hkey _ _ _ =>
    obtain ⟨c, tail, rfl, hc⟩ := hkey.exists_head
    exact ⟨c, _, rfl, hc⟩

theorem IsEntry.exists_head (h : IsEntry path e) : ∃ c tail, e = c :: tail ∧ startsKey c = true := by
  obtain ⟨w, blanks, blanks', hpath, -, -, rfl⟩ := h
  obtain ⟨c, tail, rfl, hc⟩ := hpath.exists_head
  exact ⟨c, _, rfl, hc⟩

theorem ne_of_startsKey {d : Char} (hc : startsKey c = true) (hd : startsKey d = false) : c ≠ d := by
  rintro rfl
  cases hc.symm.trans hd

theorem startsWord_of_startsKey (hc : startsKey c = true) : startsWord c = true := by
  have hspace : c ≠ ' ' := ne_of_startsKey hc (by decide)
  have htab : c ≠ '\t' := ne_of_startsKey hc (by decide)
  have hmark : c ≠ '#' := ne_of_startsKey hc (by decide)
  have hfeed : c ≠ '\n' := ne_of_startsKey hc (by decide)
  have hreturn : c ≠ '\r' := ne_of_startsKey hc (by decide)
  simp only [startsWord, isBlank, Bool.and_eq_true, Bool.not_eq_true', Bool.or_eq_false_iff,
    beq_eq_false_iff_ne, bne_iff_ne, ne_eq, hspace, htab, hmark, hfeed, hreturn, not_false_eq_true,
    and_self]

/-- a text that no blank starts -/
def IsClose (cs : List Char) : Prop := ∀ c ∈ cs.head?, isBlank c = false

theorem PathSpells.isClose (h : PathSpells path w) (rest : List Char) : IsClose (w ++ rest) := by
  obtain ⟨c, tail, rfl, hc⟩ := h.exists_head
  have hstarts := startsWord_of_startsKey hc
  simp only [startsWord, Bool.and_eq_true, Bool.not_eq_true'] at hstarts
  exact Text.forall_head_cons hstarts.1.1.1

theorem IsEntry.isWord (h : IsEntry path e) : IsWord e := by
  obtain ⟨c, tail, rfl, hc⟩ := h.exists_head
  exact ⟨c, tail, rfl, startsWord_of_startsKey hc⟩

/-! ### reading a key -/

theorem literal?_append (hw : ∀ c ∈ w, c ≠ '\'' ∧ isControl c = false) (spelt rest : List Char) :
    literal? spelt (w ++ '\'' :: rest) = some (String.ofList (spelt.reverse ++ w), rest) := by
  induction w generalizing spelt with
  | nil => rw [List.append_nil]; rfl
  | cons c w ih =>
    rw [List.forall_mem_cons] at hw
    obtain ⟨⟨hquote, hcontrol⟩, hw⟩ := hw
    rw [List.cons_append, literal?]
    · rw [hcontrol, if_neg Bool.false_ne_true, ih hw, List.reverse_cons, List.append_assoc,
        List.singleton_append]
    · exact fun he => hquote he

/-- **A key is read, whatever follows it**, but for a bare key what goes on. -/
theorem simpleKey?_spells (h : KeySpells key w) (hrest : ∀ c ∈ rest.head?, isBare c = false) :
    simpleKey? (w ++ rest) = some (key, rest) := by
  cases h with
  | bare hne hw =>
    have htake : (w ++ rest).takeWhile isBare = w := Text.takeWhile_run hw hrest
    have hnone : w.isEmpty = false := by
      rw [Bool.eq_false_iff, ne_eq, List.isEmpty_iff]
      exact hne
    have hquote : ∀ {q : Char} {tail}, isBare q = false → w ++ rest ≠ q :: tail := by
      intro q tail hq he
      cases w with
      | nil => exact hne rfl
      | cons c w =>
        have hc := hw c List.mem_cons_self
        rw [(List.cons.inj he).1, hq] at hc
        cases hc
    rw [simpleKey?]
    · simp only [htake, hnone, Bool.false_eq_true, if_false, List.drop_left]
    · exact fun tail => hquote (by decide)
    · exact fun tail => hquote (by decide)
  | @basic chars body hbody =>
    have hfuel : body.length < (('"' :: (body ++ ['"'])) ++ rest).length + 1 := by
      simp only [List.length_cons, List.length_append]
      omega
    show basic? _ [] (body ++ ['"'] ++ rest) = _
    rw [List.append_assoc]
    exact basic?_spelled hbody hfuel rest
  | @literal w hw =>
    show literal? [] (w ++ ['\''] ++ rest) = _
    rw [List.append_assoc]
    exact literal?_append hw [] rest

def endsKey (c : Char) : Bool := !isBlank c && !isBare c && c != '.'

theorem head_isBare (hblanks : AreBlank blanks) (hc : isBare c = false) :
    ∀ d ∈ (blanks ++ c :: rest).head?, isBare d = false := by
  refine Text.forall_head_append (fun b hb => ?_) (Text.forall_head_cons hc)
  have hblank := hblanks b (List.mem_of_mem_head? hb)
  rw [isBlank, Bool.or_eq_true, beq_iff_eq, beq_iff_eq] at hblank
  rcases hblank with rfl | rfl <;> decide

theorem PathSpells.length_le (h : PathSpells path w) : path.length ≤ w.length := by
  have hpos : ∀ {key w}, KeySpells key w → 0 < w.length := by
    intro key w hkey
    obtain ⟨c, tail, rfl, -⟩ := hkey.exists_head
    exact Nat.succ_pos _
  induction h with
  | last hkey => exact hpos hkey
  | dot hkey _ _ _ ih =>
    have := hpos hkey
    simp only [List.length_cons, List.length_append]
    omega

/-- **A dotted key is read up to what ends it.** -/
theorem key?_path (h : PathSpells path w) (hblanks : AreBlank blanks) (hc : endsKey c = true)
    (hfuel : path.length ≤ fuel) (rest : List Char) :
    key? fuel (w ++ (blanks ++ c :: rest)) = some (path, c :: rest) := by
  simp only [endsKey, Bool.and_eq_true, Bool.not_eq_true', bne_iff_ne] at hc
  obtain ⟨⟨hblank, hbare⟩, hdot⟩ := hc
  induction h generalizing fuel with
  | last hkey =>
    rw [List.length_singleton] at hfuel
    obtain ⟨fuel, rfl⟩ : ∃ n, fuel = n + 1 := ⟨fuel - 1, by omega⟩
    rw [key?, simpleKey?_spells hkey (head_isBare hblanks hbare)]
    simp only [skipBlanks_cons hblanks hblank]
    split
    · next he => exact absurd (List.cons.inj he).1 hdot
    · rfl
  | @dot key path w before behind w' hkey hbefore hbehind hpath ih =>
    rw [List.length_cons] at hfuel
    obtain ⟨fuel, rfl⟩ : ∃ n, fuel = n + 1 := ⟨fuel - 1, by omega⟩
    have hless : path.length ≤ fuel := Nat.le_of_succ_le_succ hfuel
    have hdot : isBlank '.' = false := by decide
    rw [List.append_assoc, List.append_assoc, List.cons_append, List.append_assoc, key?,
      simpleKey?_spells hkey (head_isBare hbefore (by decide))]
    simp only [skipBlanks_cons hbefore hdot, skipBlanks_append hbehind (hpath.isClose _), ih hless]
    rfl

/-! ### entries and headers -/

theorem key?_entry (h : IsEntry path e) (hcs : IsClose cs) (hfuel : (e ++ cs).length < fuel) :
    ∃ rest, key? fuel (e ++ cs) = some (path, '=' :: rest) ∧ skipBlanks rest = cs := by
  obtain ⟨w, blanks, blanks', hpath, hblanks, hblanks', rfl⟩ := h
  have hless : path.length ≤ fuel := by
    have := hpath.length_le
    simp only [List.length_append] at hfuel
    omega
  refine ⟨blanks' ++ cs, ?_, skipBlanks_append hblanks' hcs⟩
  rw [List.append_assoc, List.append_assoc, List.cons_append]
  exact key?_path hpath hblanks (by decide) hless _

/-- **An entry puts its value under the header.** -/
theorem entry?_eq (h : IsEntry path e) (hcs : IsClose cs) (d : Draft) :
    entry? d (e ++ cs) = (value? (3 * (e ++ cs).length + 16) 0 cs).bind fun p =>
      (d.root.underHeader? (Table.insert? p.1 path) d.path).map fun root => (⟨root, d.path⟩, p.2) := by
  obtain ⟨rest, hkey, hrest⟩ := key?_entry h hcs (Nat.lt_succ_self _)
  unfold entry?
  rw [hkey]
  show (value? _ 0 (skipBlanks rest)).bind _ = _
  rw [hrest]
  simp only [Option.map_eq_bind]
  rfl

theorem line?_entry (h : IsEntry path e) (d : Draft) (cs : List Char) :
    line? d (e ++ cs) = entry? d (e ++ cs) := by
  obtain ⟨c, tail, rfl, hc⟩ := h.exists_head
  have hbracket : c ≠ '[' := ne_of_startsKey hc (by decide)
  rw [line?]
  · intro rest he
    exact hbracket (List.cons.inj he).1
  · intro rest he
    exact hbracket (List.cons.inj he).1

theorem readLines?_word (hspace : IsSpace space) (hcs : IsWord cs) (fuel : Nat) (d : Draft) :
    readLines? (fuel + 1) d (space ++ cs) =
      (line? d cs).bind fun p => (endLine? p.2).bind (readLines? fuel p.1) := by
  rw [readLines?, skipSpace_word hspace hcs]
  obtain ⟨c, rest, rfl, -⟩ := hcs
  dsimp only
  cases line? d (c :: rest) with
  | none => rfl
  | some p =>
    obtain ⟨d', rest'⟩ := p
    dsimp only [Option.bind_some]
    cases endLine? rest' with
    | none => rfl
    | some rest'' => rfl

/-- **A header opens its table.** -/
theorem line?_header (h : PathSpells path w) (hblanks : AreBlank blanks) (hblanks' : AreBlank blanks')
    {outer : List String} (hlast : splitLast? path = some (outer, key)) (d : Draft) (rest : List Char) :
    line? d ('[' :: (blanks ++ (w ++ (blanks' ++ ']' :: rest)))) =
      (d.root.underHeader? (Table.open? key) outer).map fun root => (⟨root, path⟩, rest) := by
  have hfuel : path.length ≤ (blanks ++ (w ++ (blanks' ++ ']' :: rest))).length + 1 := by
    have := h.length_le
    simp only [List.length_append]
    omega
  rw [line?]
  · unfold header?
    rw [skipBlanks_append hblanks (h.isClose _), key?_path h hblanks' (by decide) hfuel]
    have hbracket : skipBlanks (']' :: rest) = ']' :: rest := rfl
    simp only [Option.bind_eq_bind, Option.bind_some, hbracket, Text.behind?, if_true, hlast,
      Option.map_eq_bind]
    rfl
  · intro more he
    cases blanks with
    | nil =>
      obtain ⟨c, tail, rfl, hc⟩ := h.exists_head
      exact ne_of_startsKey (d := '[') hc (by decide) (List.cons.inj he).1
    | cons b blanks =>
      have hb := hblanks b List.mem_cons_self
      rw [(List.cons.inj he).1] at hb
      cases hb

/-! ### members of inline tables -/

/-- the rest of an inline table behind the value of a member -/
def behindMember? (fuel depth : Nat) (t : Table) (cs : List Char) : Option (Table × List Char) :=
  match skipSpace cs with
  | ',' :: rest => members? fuel depth t (skipSpace rest)
  | '\x7d' :: rest => some (t, rest)
  | _ => none

/-- **A member of an inline table is one entry more.** -/
theorem members?_eq (h : IsEntry path e) (hcs : IsClose cs) (fuel depth : Nat) (t : Table) :
    members? (fuel + 1) depth t (e ++ cs) = (value? fuel depth cs).bind fun p =>
      (t.insert? p.1 path).bind fun t => behindMember? fuel depth t p.2 := by
  obtain ⟨rest, hkey, hrest⟩ := key?_entry h hcs (Nat.lt_succ_self _)
  have hequals : skipBlanks ('=' :: rest) = '=' :: rest := rfl
  rw [members?]
  · simp only [hkey, hequals, hrest]
    cases value? fuel depth cs with
    | none => rfl
    | some p =>
      obtain ⟨v, rest⟩ := p
      dsimp only [Option.bind_some]
      cases t.insert? v path with
      | none => rfl
      | some t => rfl
  · intro more he
    obtain ⟨c, tail, rfl, hc⟩ := h.exists_head
    exact ne_of_startsKey (d := '\x7d') hc (by decide) (List.cons.inj he).1

end ServiceDiagram.Toml

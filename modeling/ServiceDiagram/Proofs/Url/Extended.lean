import Mathlib.Data.List.DropRight
import ServiceDiagram.Proofs.Url.Authority

/-!
# Addresses with more written behind them

An address of `http` or `https` is its front (the scheme and slashes), its authority, and what stands
behind that (`IsHosted.exists_cut`).  Margins of a text do not count, so a text may be an address although
it ends with blanks; when more is written behind it, these blanks count.  That is all right behind the
authority, and it is not if they stand at its end (`IsHosted.extended_iff`).

* `IsScheme word`          a scheme, as it is written;
* `IsFront front`          one of `http` or `https` with its colon, and slashes;
* `IsHosted cs`            an address of `http` or `https`, without margins;
* `behindAuthority cs`     its path, and the query and the fragment behind that;
* `LiesInPath part cs`     the path ends with a part, and nothing follows;
* `inner cs`               a text without the margin in front;
* `trailing cs`            what the margin at the end adds to a text, once more is behind it;
* `KeepsEnd cs`            no blanks get into the authority then;
* `IsTail tail`            what may be written behind an address: a path.
-/

namespace ServiceDiagram.Url

open Text (takeWhile_run dropWhile_run dropWhile_none forall_head_cons)

variable {cs word front a q tail slashes rest : List Char} {c : Char} {scheme : String}

/-! ### fronts -/

structure IsScheme (word : List Char) : Prop where
  head : word.head?.any Char.isAlpha = true
  all : ∀ c ∈ word, isSchemeChar c = true

/-- **The front of an address of `http` or `https`** -/
def IsFront (front : List Char) : Prop :=
  ∃ word slashes, IsScheme word ∧ front = word ++ ':' :: slashes ∧ (∀ c ∈ slashes, isSlash c = true) ∧
    (String.ofList (word.map Char.toLower) = "http" ∨
      String.ofList (word.map Char.toLower) = "https")

/-- **A scheme ends with the first colon.** -/
theorem scheme?_eq_some_iff :
    scheme? cs = some (scheme, rest) ↔
      ∃ word, IsScheme word ∧ cs = word ++ ':' :: rest ∧
        scheme = String.ofList (word.map Char.toLower) := by
  constructor
  · intro h
    unfold scheme? at h
    split at h
    · next halpha =>
      split at h
      · next rest' hcolon =>
        obtain ⟨rfl, rfl⟩ := Prod.mk.inj (Option.some.inj h)
        have hcut := List.takeWhile_append_dropWhile (p := isSchemeChar) (l := cs)
        rw [hcolon] at hcut
        refine ⟨cs.takeWhile isSchemeChar, ⟨?_, fun c hc => List.mem_takeWhile_imp hc⟩, hcut.symm, rfl⟩
        cases cs with
        | nil => exact halpha
        | cons c cs =>
          have hletter : c.isAlpha = true := halpha
          have hc : isSchemeChar c = true := by
            simp only [isSchemeChar, Char.isAlphanum, hletter, Bool.true_or]
          rw [List.takeWhile_cons, if_pos hc]
          exact halpha
      · cases h
    · cases h
  · rintro ⟨word, hword, rfl, rfl⟩
    have hcolon : ∀ c ∈ (':' :: rest).head?, isSchemeChar c = false := forall_head_cons (by decide)
    have hhead : (word ++ ':' :: rest).head?.any Char.isAlpha = true := by
      cases word with
      | nil => cases hword.head
      | cons c word => exact hword.head
    unfold scheme?
    rw [if_pos hhead, takeWhile_run hword.all hcolon, dropWhile_run hword.all hcolon]
    rfl

/-! ### addresses -/

/-- **An address of `http` or `https`**, without margins -/
def IsHosted (cs : List Char) : Prop :=
  ∃ scheme rest, scheme? cs = some (scheme, rest) ∧ (scheme = "http" ∨ scheme = "https") ∧
    checkAuthority .hosted (rest.dropWhile isSlash) = .ok ()

/-- what stands behind the authority of an address -/
def behindAuthority (cs : List Char) : List Char :=
  match scheme? cs with
  | some (_, rest) => (rest.dropWhile isSlash).dropWhile fun c => !endsAuthority .hosted c
  | none => []

theorem not_isSlash_of_within (ha : Within a) (hc : c ∈ a) : isSlash c = false := by
  have hgo := ha c hc
  rw [Bool.eq_false_iff] at hgo ⊢
  intro hslash
  refine hgo (endsAuthority_iff.mpr ?_)
  simp only [isSlash, Bool.or_eq_true, beq_iff_eq] at hslash
  rcases hslash with rfl | rfl
  · exact Or.inl rfl
  · exact Or.inr (Or.inr (Or.inr rfl))

theorem dropWhile_slashes (hslashes : ∀ c ∈ slashes, isSlash c = true) (ha : Within a) (hne : a ≠ []) :
    (slashes ++ (a ++ q)).dropWhile isSlash = a ++ q := by
  refine dropWhile_run hslashes ?_
  cases a with
  | nil => exact absurd rfl hne
  | cons c a => exact forall_head_cons (not_isSlash_of_within ha List.mem_cons_self)

theorem isHosted_cut (hfront : IsFront front) (ha : Within a) (hne : a ≠ []) :
    IsHosted (front ++ (a ++ q)) ↔ checkAuthority .hosted (a ++ q) = .ok () := by
  obtain ⟨word, slashes, hword, rfl, hslashes, hscheme⟩ := hfront
  have hread : scheme? (word ++ ':' :: slashes ++ (a ++ q)) =
      some (String.ofList (word.map Char.toLower), slashes ++ (a ++ q)) :=
    scheme?_eq_some_iff.mpr ⟨word, hword, by rw [List.append_assoc, List.cons_append], rfl⟩
  unfold IsHosted
  constructor
  · rintro ⟨scheme, rest, h, -, hok⟩
    obtain ⟨rfl, rfl⟩ := Prod.mk.inj (Option.some.inj (hread.symm.trans h))
    rwa [dropWhile_slashes hslashes ha hne] at hok
  · intro hok
    refine ⟨_, _, hread, hscheme, ?_⟩
    rwa [dropWhile_slashes hslashes ha hne]

theorem behindAuthority_cut (hfront : IsFront front) (ha : Within a) (hne : a ≠ []) (hq : Ended q) :
    behindAuthority (front ++ (a ++ q)) = q := by
  obtain ⟨word, slashes, hword, rfl, hslashes, -⟩ := hfront
  have hread : scheme? (word ++ ':' :: slashes ++ (a ++ q)) =
      some (String.ofList (word.map Char.toLower), slashes ++ (a ++ q)) :=
    scheme?_eq_some_iff.mpr ⟨word, hword, by rw [List.append_assoc, List.cons_append], rfl⟩
  unfold behindAuthority
  rw [hread]
  show ((slashes ++ (a ++ q)).dropWhile isSlash).dropWhile _ = q
  rw [dropWhile_slashes hslashes ha hne, dropWhile_within ha hq]

theorem ended_dropWhile (cs : List Char) :
    Ended (cs.dropWhile fun c => !endsAuthority .hosted c) := by
  intro c hc
  have hstop := List.head?_dropWhile_not (fun c => !endsAuthority .hosted c) cs
  rw [Option.mem_def.mp hc] at hstop
  simpa using hstop

/-- **An address is its front, its authority, and what is behind that.** -/
theorem IsHosted.exists_cut (h : IsHosted cs) :
    ∃ front a q, IsFront front ∧ Within a ∧ a ≠ [] ∧ Ended q ∧ cs = front ++ (a ++ q) ∧
      checkAuthority .hosted a = .ok () := by
  obtain ⟨scheme, rest, hread, hscheme, hok⟩ := h
  obtain ⟨word, hword, rfl, rfl⟩ := scheme?_eq_some_iff.mp hread
  have hslashes := List.takeWhile_append_dropWhile (p := isSlash) (l := rest)
  have hcut := List.takeWhile_append_dropWhile (p := fun c => !endsAuthority .hosted c)
    (l := rest.dropWhile isSlash)
  have ha : Within ((rest.dropWhile isSlash).takeWhile fun c => !endsAuthority .hosted c) := by
    intro c hc
    have hgo := List.mem_takeWhile_imp hc
    simpa using hgo
  have hq := ended_dropWhile (rest.dropWhile isSlash)
  generalize (rest.dropWhile isSlash).takeWhile (fun c => !endsAuthority .hosted c) = a at *
  generalize (rest.dropWhile isSlash).dropWhile (fun c => !endsAuthority .hosted c) = q at *
  rw [← hcut, checkAuthority_ended ha hq] at hok
  refine ⟨word ++ ':' :: rest.takeWhile isSlash, a, q, ?_, ha, ?_, hq, ?_, hok⟩
  · exact ⟨word, _, hword, rfl, fun c hc => List.mem_takeWhile_imp hc, hscheme⟩
  · rintro rfl
    exact absurd hok (by decide)
  · rw [hcut, List.append_assoc, List.cons_append, hslashes]

/-! ### paths -/

/-- a character in front of a query and of a fragment -/
def isPathChar (c : Char) : Bool := c != '?' && c != '#'

/-- **The path of an address**, as it is written -/
def path (cs : List Char) : List Char := (behindAuthority cs).takeWhile isPathChar

theorem not_isPathChar_iff : isPathChar c = false ↔ c = '?' ∨ c = '#' := by
  rw [Bool.eq_false_iff, isPathChar, ne_eq, Bool.and_eq_true, bne_iff_ne, bne_iff_ne, not_and_or,
    not_not, not_not]

theorem IsFront.not_mem (hfront : IsFront front) (hc : isPathChar c = false) : c ∉ front := by
  obtain ⟨word, slashes, hword, rfl, hslashes, -⟩ := hfront
  intro hmem
  rcases List.mem_append.mp hmem with hmem | hmem
  · have hall := hword.all c hmem
    rcases not_isPathChar_iff.mp hc with rfl | rfl <;> cases hall
  · rcases List.mem_cons.mp hmem with rfl | hmem
    · cases hc
    · have hall := hslashes c hmem
      rcases not_isPathChar_iff.mp hc with rfl | rfl <;> cases hall

theorem Within.not_mem (ha : Within a) (hc : isPathChar c = false) : c ∉ a := by
  intro hmem
  have hgo := ha c hmem
  rcases not_isPathChar_iff.mp hc with rfl | rfl <;> cases hgo

theorem not_isMargin_of_not_isPathChar (hc : isPathChar c = false) : isMargin c = false := by
  rcases not_isPathChar_iff.mp hc with rfl | rfl <;> rfl

/-- the path of an address ends with a part, and there is no query and no fragment -/
def LiesInPath (part cs : List Char) : Prop := part <:+ path cs ∧ path cs = behindAuthority cs

theorem liesInPath_cut (hfront : IsFront front) (ha : Within a) (hne : a ≠ []) (hq : Ended q)
    (htail : tail <:+ q) :
    LiesInPath tail (front ++ (a ++ q)) ↔ '?' ∉ q ∧ '#' ∉ q := by
  unfold LiesInPath path
  rw [behindAuthority_cut hfront ha hne hq]
  constructor
  · rintro ⟨-, hall⟩
    have hpath := List.takeWhile_eq_self_iff.mp hall
    exact ⟨fun h => absurd (hpath _ h) (by decide), fun h => absurd (hpath _ h) (by decide)⟩
  · rintro ⟨hquery, hfragment⟩
    have hall : q.takeWhile isPathChar = q := by
      refine List.takeWhile_eq_self_iff.mpr fun c hc => ?_
      rw [isPathChar, Bool.and_eq_true, bne_iff_ne, bne_iff_ne]
      exact ⟨fun he => hquery (he ▸ hc), fun he => hfragment (he ▸ hc)⟩
    exact ⟨hall.symm ▸ htail, hall⟩

/-! ### margins -/

/-- a character that counts inside a text -/
def isKept (c : Char) : Bool := c != '\t' && c != '\n' && c != '\r'

def inner (cs : List Char) : List Char := (cs.dropWhile isMargin).filter isKept

/-- what the margin at the end of a text adds to it, once something is behind it -/
def trailing (cs : List Char) : List Char := ((cs.dropWhile isMargin).rtakeWhile isMargin).filter isKept

/-- **Nothing gets into the authority of an address** from its end: there are no blanks, or something
else stands between -/
def KeepsEnd (cs : List Char) : Prop := trailing cs = [] ∨ behindAuthority (strip cs) ≠ []

instance (cs : List Char) : Decidable (KeepsEnd cs) :=
  inferInstanceAs (Decidable (trailing cs = [] ∨ behindAuthority (strip cs) ≠ []))

theorem strip_append_trailing (cs : List Char) : strip cs ++ trailing cs = inner cs := by
  show ((cs.dropWhile isMargin).rdropWhile isMargin).filter isKept ++ trailing cs = _
  rw [trailing, ← List.filter_append, List.rdropWhile_append_rtakeWhile, inner]

theorem isMargin_of_mem_trailing (h : c ∈ trailing cs) : isMargin c = true :=
  List.mem_rtakeWhile_imp (List.mem_filter.mp h).1

def IsVisible (cs : List Char) : Prop := ∀ c ∈ cs, isMargin c = false

theorem isKept_of_not_isMargin (h : isMargin c = false) : isKept c = true := by
  rw [isKept, Bool.and_eq_true, Bool.and_eq_true, bne_iff_ne, bne_iff_ne, bne_iff_ne]
  refine ⟨⟨?_, ?_⟩, ?_⟩ <;> rintro rfl <;> cases h

theorem dropWhile_visible (htail : IsVisible tail) (cs : List Char) :
    (cs ++ tail).dropWhile isMargin = cs.dropWhile isMargin ++ tail := by
  rw [List.dropWhile_append]
  split
  · next hnone =>
    rw [List.isEmpty_iff.mp hnone, List.nil_append]
    exact dropWhile_none fun c hc => htail c (List.mem_of_mem_head? hc)
  · rfl

theorem inner_visible (htail : IsVisible tail) (cs : List Char) : inner (cs ++ tail) = inner cs ++ tail := by
  have hkept : tail.filter isKept = tail :=
    List.filter_eq_self.mpr fun c hc => isKept_of_not_isMargin (htail c hc)
  rw [inner, dropWhile_visible htail, List.filter_append, hkept, inner]

theorem trailing_visible (htail : IsVisible tail) (hne : tail ≠ []) (cs : List Char) :
    trailing (cs ++ tail) = [] := by
  have hnone : (cs.dropWhile isMargin ++ tail).rtakeWhile isMargin = [] := by
    refine List.rtakeWhile_eq_nil_iff.mpr fun hall => ?_
    rw [List.getLast_append_of_ne_nil hall hne, htail _ (List.getLast_mem _)]
    exact Bool.false_ne_true
  rw [trailing, dropWhile_visible htail, hnone, List.filter_nil]

theorem strip_visible (htail : IsVisible tail) (hne : tail ≠ []) (cs : List Char) :
    strip (cs ++ tail) = inner cs ++ tail := by
  rw [← inner_visible htail, ← strip_append_trailing, trailing_visible htail hne, List.append_nil]

theorem mem_inner_iff (h : isMargin c = false) : c ∈ inner cs ↔ c ∈ cs := by
  rw [inner, List.mem_filter, and_iff_left (isKept_of_not_isMargin h)]
  refine ⟨fun hc => (List.dropWhile_suffix isMargin).mem hc, fun hc => ?_⟩
  rw [← List.takeWhile_append_dropWhile (p := isMargin) (l := cs), List.mem_append] at hc
  rcases hc with hc | hc
  · rw [List.mem_takeWhile_imp hc] at h
    cases h
  · exact hc

theorem areBlanks_trailing (h : trailing cs ≠ []) : AreBlanks (trailing cs) :=
  ⟨h, fun _ hc => of_decide_eq_true (isMargin_of_mem_trailing hc)⟩

theorem isVisible_slashes (hslashes : ∀ c ∈ slashes, c = '/') : IsVisible slashes := by
  intro c hc
  rw [hslashes c hc]
  rfl

/-! ### more behind an address -/

/-- **What may be written behind an address**: a path of visible characters -/
structure IsTail (tail : List Char) : Prop where
  head : tail.head? = some '/'
  visible : IsVisible tail
  path : ∀ c ∈ tail, isPathChar c = true

theorem IsTail.ne_nil (h : IsTail tail) : tail ≠ [] := List.ne_nil_of_mem (List.mem_of_mem_head? h.head)

theorem Ended.append_tail (hq : Ended q) (htail : IsTail tail) : Ended (q ++ tail) := by
  cases q with
  | nil =>
    intro c hc
    obtain rfl := Option.some.inj (htail.head.symm.trans hc)
    rfl
  | cons c q => exact hq

/-- slashes at the end of an address are behind its authority, and what is left without them is cut
where the address is -/
theorem exists_cut_of_slashes (hslashes : ∀ c ∈ slashes, c = '/') (ha : Within a) (hne : a ≠ [])
    (hq : Ended q) (h : cs ++ slashes = front ++ (a ++ q)) :
    ∃ y, Ended y ∧ cs = front ++ (a ++ y) := by
  rw [← List.append_assoc] at h
  rcases List.append_eq_append_iff.mp h with ⟨z, hz, hzq⟩ | ⟨y, hy, rfl⟩
  · -- the last character of the authority would be a slash
    have hnil : z = [] := by
      by_contra hsome
      have hlast : a.getLast hne = z.getLast hsome := by
        have hends := congrArg List.getLast? hz
        rwa [List.getLast?_append_of_ne_nil _ hne, List.getLast?_append_of_ne_nil _ hsome,
          List.getLast?_eq_some_getLast hne, List.getLast?_eq_some_getLast hsome,
          Option.some_inj] at hends
      have hslash : z.getLast hsome = '/' := by
        refine hslashes _ ?_
        rw [hzq]
        exact List.mem_append_left q (List.getLast_mem hsome)
      have hgo := ha _ (List.getLast_mem hne)
      rw [hlast, hslash] at hgo
      cases hgo
    rw [hnil, List.append_nil] at hz
    exact ⟨[], ended_nil, by rw [List.append_nil, hz]⟩
  · refine ⟨y, ?_, by rw [hy, List.append_assoc]⟩
    cases y with
    | nil => exact ended_nil
    | cons c y => exact hq

/-- **An address without its last slashes**, as it reads with more behind it: it has an authority still
if the end of the address is kept. -/
theorem IsHosted.exists_extended (h : IsHosted (strip (cs ++ slashes)))
    (hslashes : ∀ c ∈ slashes, c = '/') :
    ∃ front a y, IsFront front ∧ Within a ∧ a ≠ [] ∧ Ended y ∧ inner cs = front ++ (a ++ y) ∧
      (checkAuthority .hosted a = .ok () ↔ KeepsEnd (cs ++ slashes)) := by
  obtain ⟨front, a, q, hfront, ha, hne, hq, hcut, hok⟩ := h.exists_cut
  have hbehind := behindAuthority_cut hfront ha hne hq
  rw [← hcut] at hbehind
  have hinner := strip_append_trailing (cs ++ slashes)
  rw [hcut, inner_visible (isVisible_slashes hslashes), List.append_assoc, List.append_assoc] at hinner
  by_cases hkeeps : KeepsEnd (cs ++ slashes)
  · have hended : Ended (q ++ trailing (cs ++ slashes)) := by
      cases q with
      | nil =>
        rcases hkeeps with hnone | hsome
        · rw [hnone]
          exact ended_nil
        · exact absurd hbehind hsome
      | cons c q => exact hq
    obtain ⟨y, hy, hleft⟩ := exists_cut_of_slashes hslashes ha hne hended hinner.symm
    exact ⟨front, a, y, hfront, ha, hne, hy, hleft, iff_of_true hok hkeeps⟩
  · obtain ⟨hblanks, hnone⟩ := not_or.mp hkeeps
    obtain rfl : q = [] := hbehind.symm.trans (not_not.mp hnone)
    have hnoslash : slashes = [] := by
      by_contra hsome
      exact hblanks (trailing_visible (isVisible_slashes hslashes) hsome cs)
    rw [hnoslash, List.append_nil, List.nil_append] at hinner
    have hrefused := checkAuthority_blank ha hok (areBlanks_trailing hblanks) ended_nil
    rw [List.append_nil] at hrefused
    refine ⟨front, a ++ trailing (cs ++ slashes), [], hfront,
      ha.append (areBlanks_trailing hblanks).within, ?_, ended_nil, ?_, iff_of_false hrefused hkeeps⟩
    · exact List.append_ne_nil_of_left_ne_nil hne _
    · rw [List.append_nil (a ++ _), hnoslash, List.append_nil cs, hinner, List.append_nil]

/-- **More behind an address is an address exactly if its end is kept**, and what is added lies in its
path exactly if it has no query and no fragment. -/
theorem IsHosted.extended_iff (h : IsHosted (strip (cs ++ slashes))) (hslashes : ∀ c ∈ slashes, c = '/')
    (htail : IsTail tail) :
    (IsHosted (strip (cs ++ tail)) ↔ KeepsEnd (cs ++ slashes)) ∧
      (LiesInPath tail (strip (cs ++ tail)) ↔ '?' ∉ cs ++ slashes ∧ '#' ∉ cs ++ slashes) := by
  obtain ⟨front, a, y, hfront, ha, hne, hy, hleft, hkeeps⟩ := h.exists_extended hslashes
  have hended := hy.append_tail htail
  rw [strip_visible htail.visible htail.ne_nil, hleft, List.append_assoc, List.append_assoc]
  refine ⟨?_, ?_⟩
  · rw [isHosted_cut hfront ha hne, checkAuthority_ended ha hended, hkeeps]
  · have hmark : ∀ c, isPathChar c = false → (c ∈ y ++ tail ↔ c ∈ cs ++ slashes) := by
      intro c hc
      have hnotail : c ∉ tail := fun hm => by cases hc.symm.trans (htail.path c hm)
      have hnoslash : c ∉ slashes := by
        intro hm
        rw [hslashes c hm] at hc
        cases hc
      have hnofront : c ∉ front ++ a := fun hm =>
        (List.mem_append.mp hm).elim (hfront.not_mem hc) (ha.not_mem hc)
      have hinner : c ∈ inner cs ↔ c ∈ cs := mem_inner_iff (not_isMargin_of_not_isPathChar hc)
      rw [List.mem_append, or_iff_left hnotail, List.mem_append, or_iff_left hnoslash, ← hinner, hleft,
        ← List.append_assoc, List.mem_append, or_iff_right hnofront]
    rw [liesInPath_cut hfront ha hne hended (List.suffix_append y tail), hmark _ rfl, hmark _ rfl]

end ServiceDiagram.Url

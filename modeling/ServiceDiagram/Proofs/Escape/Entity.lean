import ServiceDiagram.Escape.Entity
import ServiceDiagram.Proofs.Text.Replaced

/-!
# Entities are unescaped once

The entities are expanded one kind after the other, each in a text that the kinds before it have
changed.  In the end it is as if the text had been read once, with all of them replaced where they
stand (`replaced_unescapeEntities`).  For no character that an entity becomes is a letter of another,
and only the last kind becomes an ampersand (`Orderly`): so no kind makes, breaks or hides an entity
of a later one (`Orderly.expand`).

* `EntityWord es w cs`     `w` is one of the entities `es` as it is written, `cs` its character;
* `EntityEscaped cs es`    `es` is `cs` with an entity for each ampersand, and for any other
  characters that have one.
-/

namespace ServiceDiagram.Escape

open Text

def Entity.word (e : Entity) : List Char := '&' :: e.letters

/-- **An entity as it is written, and its character** -/
def EntityWord (es : List Entity) (w cs : List Char) : Prop :=
  ∃ e ∈ es, w = e.word ∧ cs = [e.char]

/-- the text after one reading that replaces each of some entities -/
abbrev EntitiesReplaced (es : List Entity) : List Char → List Char → Prop :=
  Replaced (EntityWord es) fun c => [c]

variable {e : Entity} {es done : List Entity} {c : Char} {cs mid out rest w : List Char}

/-! ### one kind -/

theorem Entity.after?_eq_some_iff : e.after? cs = some rest ↔ cs = e.word ++ rest := by
  unfold Entity.word
  cases cs with
  | nil => exact ⟨nofun, nofun⟩
  | cons c cs =>
    unfold Entity.after?
    simp only
    by_cases hc : c = '&'
    · rw [if_pos hc, behind?_eq_some_iff, hc, List.cons_append, List.cons_inj_right]
    · rw [if_neg hc]
      exact ⟨nofun, fun h => absurd (List.cons.inj h).1 hc⟩

theorem Entity.expand_word (e : Entity) (rest : List Char) :
    e.expand (e.word ++ rest) = e.char :: e.expand rest := by
  have hsome : e.after? (e.word ++ rest) = some rest := Entity.after?_eq_some_iff.mpr rfl
  rw [Entity.expand]
  split
  · next h =>
    cases h.symm.trans hsome
    rfl
  · next h => cases h.symm.trans hsome

theorem Entity.expand_char (h : ¬ e.word <+: c :: rest) :
    e.expand (c :: rest) = c :: e.expand rest := by
  rw [Entity.expand]
  split
  · next rest' hsome =>
    exact absurd ⟨rest', (Entity.after?_eq_some_iff.mp hsome).symm⟩ h
  · rfl

theorem not_word_isPrefix (h : c ≠ '&') (e : Entity) (rest : List Char) :
    ¬ e.word <+: c :: rest :=
  fun hfront => h (List.cons_prefix_cons.mp hfront).1.symm

theorem Entity.expand_append (h : '&' ∉ w) (rest : List Char) :
    e.expand (w ++ rest) = w ++ e.expand rest := by
  induction w with
  | nil => rfl
  | cons c w ih =>
    rw [List.mem_cons, not_or] at h
    rw [List.cons_append, Entity.expand_char (not_word_isPrefix (Ne.symm h.1) e _), ih h.2,
      List.cons_append]

/-! ### letters in a reading -/

/-- characters that start no entity are copied -/
theorem EntitiesReplaced.behind (h : EntitiesReplaced es (w ++ rest) out) (hw : '&' ∉ w) :
    ∃ out', out = w ++ out' ∧ EntitiesReplaced es rest out' := by
  induction w generalizing out with
  | nil => exact ⟨out, rfl, h⟩
  | cons c w ih =>
    rw [List.mem_cons, not_or] at hw
    generalize hcs : c :: w ++ rest = cs at h
    cases h with
    | nil => cases hcs
    | word hword _ =>
      obtain ⟨e, -, rfl, -⟩ := hword
      exact absurd (List.cons.inj hcs).1.symm hw.1
    | char _ hrest =>
      obtain ⟨rfl, rfl⟩ := List.cons.inj hcs
      obtain ⟨out', rfl, hout⟩ := ih hrest hw.2
      exact ⟨out', rfl, hout⟩

/-- characters that no entity becomes have been copied -/
theorem EntitiesReplaced.before (h : EntitiesReplaced es cs (w ++ out))
    (hw : ∀ e ∈ es, e.char ∉ w) : ∃ rest, cs = w ++ rest ∧ EntitiesReplaced es rest out := by
  induction w generalizing cs with
  | nil => exact ⟨cs, rfl, h⟩
  | cons c w ih =>
    generalize hout : c :: w ++ out = all at h
    cases h with
    | nil => cases hout
    | word hword _ =>
      obtain ⟨e, he, -, rfl⟩ := hword
      obtain rfl := (List.cons.inj hout).1
      exact absurd List.mem_cons_self (hw e he)
    | char _ hrest =>
      obtain ⟨rfl, rfl⟩ := List.cons.inj hout
      obtain ⟨rest', rfl, hrest'⟩ := ih hrest fun e he hc => hw e he (List.mem_cons_of_mem c hc)
      exact ⟨rest', rfl, hrest'⟩

/-! ### one kind after the other -/

/-- **Entities in an order in which none disturbs a later one** -/
structure Orderly (es : List Entity) : Prop where
  letters : ∀ e ∈ es, '&' ∉ e.letters ∧ ∀ e' ∈ es, e'.char ∉ e.letters
  /-- only the last one may stand for an ampersand -/
  chars : es.Pairwise fun e _ => e.char ≠ '&'

/-- **One more kind is as good as replaced in the same reading.** -/
theorem Orderly.expand (hes : Orderly (done ++ e :: es)) (h : EntitiesReplaced done cs mid) :
    EntitiesReplaced (done ++ [e]) cs (e.expand mid) := by
  have he : e ∈ done ++ e :: es := List.mem_append_right _ List.mem_cons_self
  obtain ⟨hamp, hletters⟩ := hes.letters e he
  have hchars : ∀ x ∈ done, x.char ≠ '&' := fun x hx =>
    (List.pairwise_append.mp hes.chars).2.2 x hx e List.mem_cons_self
  have hfresh : ∀ x ∈ done ++ [e], x.char ∉ e.letters := by
    refine fun x hx => hletters x ?_
    rw [List.append_cons]
    exact List.mem_append_left _ hx
  have hmem : e ∈ done ++ [e] := List.mem_append_right _ List.mem_cons_self
  induction h with
  | nil =>
    rw [Entity.expand]
    exact .nil
  | @word w bs rest mid hw _ ih =>
    obtain ⟨x, hx, rfl, rfl⟩ := hw
    rw [List.singleton_append, Entity.expand_char (not_word_isPrefix (hchars x hx) e mid)]
    exact .word ⟨x, List.mem_append_left _ hx, rfl, rfl⟩ ih
  | @char c rest mid hnone hrest ih =>
    rw [List.singleton_append]
    by_cases hstart : e.word <+: c :: mid
    · -- the entity stands in the text too: its letters were copied from there
      obtain ⟨hc, mid', rfl⟩ := List.cons_prefix_cons.mp hstart
      obtain rfl := hc
      rw [Entity.expand_append hamp] at ih
      obtain ⟨rest', rfl, hrest'⟩ := EntitiesReplaced.before ih hfresh
      have hexpand : e.expand ('&' :: (e.letters ++ mid')) = [e.char] ++ e.expand mid' :=
        e.expand_word mid'
      rw [hexpand]
      exact .word ⟨e, hmem, rfl, rfl⟩ hrest'
    · rw [Entity.expand_char hstart]
      refine .char (fun w bs hw hfront => ?_) ih
      obtain ⟨x, hx, rfl, rfl⟩ := hw
      rcases List.mem_append.mp hx with hx | hx
      · exact hnone _ _ ⟨x, hx, rfl, rfl⟩ hfront
      · obtain rfl := List.mem_singleton.mp hx
        obtain ⟨rfl, rest', rfl⟩ := List.cons_prefix_cons.mp hfront
        obtain ⟨mid', rfl, -⟩ := EntitiesReplaced.behind hrest hamp
        exact hstart (List.cons_prefix_cons.mpr ⟨rfl, List.prefix_append _ _⟩)

theorem Orderly.foldl (hes : Orderly (done ++ es)) (h : EntitiesReplaced done cs mid) :
    EntitiesReplaced (done ++ es) cs (es.foldl (fun cs e => e.expand cs) mid) := by
  induction es generalizing done mid with
  | nil =>
    rw [List.append_nil]
    exact h
  | cons e es ih =>
    rw [List.append_cons] at hes ⊢
    exact ih hes (Orderly.expand (by rwa [List.append_cons]) h)

/-! ### all of them -/

theorem orderly_all : Orderly Entity.all where
  letters := by decide
  chars := by decide

theorem isCode_all : IsCode (EntityWord Entity.all) where
  ne_nil := by
    rintro w cs ⟨e, -, rfl, -⟩
    exact List.cons_ne_nil _ _
  eq := by
    have hall : ∀ e ∈ Entity.all, ∀ e' ∈ Entity.all,
        e.word <+: e'.word → e.word = e'.word ∧ e.char = e'.char := by decide
    rintro w cs w' cs' ⟨e, he, rfl, rfl⟩ ⟨e', he', rfl, rfl⟩ hfront
    obtain ⟨hw, hc⟩ := hall e he e' he' hfront
    exact ⟨hw, by rw [hc]⟩

theorem replaced_none (cs : List Char) : EntitiesReplaced [] cs cs := by
  induction cs with
  | nil => exact .nil
  | cons c cs ih =>
    refine .char (fun w bs hw => ?_) ih
    obtain ⟨e, he, -⟩ := hw
    cases he

/-- **The passes come to one reading.** -/
theorem replaced_unescapeEntities (s : String) :
    EntitiesReplaced Entity.all s.toList (unescapeEntities s).toList := by
  have hall : Orderly ([] ++ Entity.all) := orderly_all
  rw [unescapeEntities, String.toList_ofList]
  exact hall.foldl (replaced_none s.toList)

/-! ### escaping -/

/-- **A text with an entity for each ampersand**, and for any other characters that have one -/
inductive EntityEscaped : List Char → List Char → Prop
  | nil : EntityEscaped [] []
  | raw {x : Char} {xs ys : List Char} (h : x ≠ '&') (hrest : EntityEscaped xs ys) :
      EntityEscaped (x :: xs) (x :: ys)
  | entity {x : Entity} {xs ys : List Char} (h : x ∈ Entity.all) (hrest : EntityEscaped xs ys) :
      EntityEscaped (x.char :: xs) (x.word ++ ys)

theorem EntityEscaped.replaced (h : EntityEscaped cs out) : EntitiesReplaced Entity.all out cs := by
  induction h with
  | nil => exact .nil
  | raw hx _ ih =>
    refine .char (fun w bs hw => ?_) ih
    obtain ⟨e, -, rfl, -⟩ := hw
    exact not_word_isPrefix hx e _
  | entity hx _ ih => exact .word ⟨_, hx, rfl, rfl⟩ ih

/-- **Entities are unescaped exactly once.**  The outcome is that of one reading of the text, and of no
other one; so a text comes back from any of its escapings, even if it holds entities itself. -/
theorem unescapeEntities_once (s : String) :
    (∀ out, EntitiesReplaced Entity.all s.toList out ↔ out = (unescapeEntities s).toList) ∧
      ∀ e : String, EntityEscaped s.toList e.toList → unescapeEntities e = s := by
  constructor
  · intro out
    constructor
    · exact fun h => h.unique isCode_all (replaced_unescapeEntities s)
    · rintro rfl
      exact replaced_unescapeEntities s
  · intro e he
    exact String.toList_inj.mp ((replaced_unescapeEntities e).unique isCode_all he.replaced)

/-- a text that holds an entity -/
theorem unescapeEntities_once_again :
    EntityEscaped "&lt; \"a\"".toList "&amp;lt; &quot;a\"".toList ∧
      unescapeEntities "&amp;lt; &quot;a\"" = "&lt; \"a\"" := by
  have hrest : EntityEscaped "lt; ".toList "lt; ".toList :=
    .raw (by decide) (.raw (by decide) (.raw (by decide) (.raw (by decide) .nil)))
  have h : EntityEscaped "&lt; \"a\"".toList "&amp;lt; &quot;a\"".toList :=
    .entity (x := ⟨['a', 'm', 'p', ';'], '&'⟩) (by simp [Entity.all])
      (.raw (by decide) (.raw (by decide) (.raw (by decide) (.raw (by decide)
        (.entity (x := ⟨['q', 'u', 'o', 't', ';'], '"'⟩) (by simp [Entity.all])
          (.raw (by decide) (.raw (by decide) .nil)))))))
  exact ⟨h, (unescapeEntities_once _).2 _ h⟩

end ServiceDiagram.Escape

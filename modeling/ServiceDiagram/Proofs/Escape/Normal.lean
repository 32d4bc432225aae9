import Mathlib.Logic.Function.Iterate
import ServiceDiagram.Escape.Normal
import ServiceDiagram.Proofs.Escape.Entity
import ServiceDiagram.Proofs.Escape.Percent

/-!
# Texts without escapes

`normalize` leaves a text as it is exactly if nothing in it is an escape (`normalize_eq_self_iff`), and
makes any other text shorter (`unitLength_normalize_lt`), so doing it again and again comes to an end
(`exists_normalize_settled`).  A text is measured in sixteen-bit units: a percent escape is three of
them or more and becomes one, even if that is half of a pair, and an entity is four or more and becomes
one.

* `IsEscape w`     a percent escape with any digits, or one of the four entities;
* `HasEscape s`    some part of a text is one.
-/

namespace ServiceDiagram.Escape

open Text

variable {s : String} {w : List Char} {us : List UInt16}

/-- **A word that is replaced**: a percent escape with any digits, or an entity -/
def IsEscape (w : List Char) : Prop :=
  (∃ ds, PercentForm ds w ∧ ∀ d ∈ ds, IsHexDigit d) ∨ ∃ e ∈ Entity.all, w = e.word

/-- some part of a text is an escape -/
def HasEscape (s : String) : Prop := ∃ w, IsEscape w ∧ w <:+: s.toList

theorem isEscape_iff :
    IsEscape w ↔ (∃ us, PercentWord w us) ∨ ∃ cs, EntityWord Entity.all w cs := by
  unfold IsEscape
  constructor
  · rintro (⟨ds, hform, hds⟩ | ⟨e, he, rfl⟩)
    · obtain ⟨n, hn⟩ := Option.isSome_iff_exists.mp (isSome_hexNumber?.mpr hds)
      exact Or.inl ⟨_, ds, n, hform, hn, rfl⟩
    · exact Or.inr ⟨_, e, he, rfl, rfl⟩
  · rintro (⟨us, ds, n, hform, hn, -⟩ | ⟨cs, e, he, rfl, -⟩)
    · exact Or.inl ⟨ds, hform, isSome_hexNumber?.mp (Option.isSome_of_eq_some hn)⟩
    · exact Or.inr ⟨e, he, rfl⟩

/-! ### percent escapes -/

theorem length_le_units (cs : List Char) : cs.length ≤ (cs.flatMap units).length := by
  induction cs with
  | nil => exact Nat.le_refl 0
  | cons c cs ih =>
    have hc := List.length_pos_iff.mpr (units_ne_nil c)
    rw [List.length_cons, List.flatMap_cons, List.length_append]
    omega

theorem PercentWord.shorter (h : PercentWord w us) :
    (us.flatMap fun u => [u]).length < (w.flatMap units).length := by
  obtain ⟨ds, n, hform, -, rfl⟩ := h
  have hle := length_le_units w
  have hone : ([n.toUInt16].flatMap fun u => [u]).length = 1 := rfl
  cases hform with
  | long => simp only [List.length_cons] at hle; omega
  | short => simp only [List.length_cons] at hle; omega

theorem unescapePercent_of_none (h : ∀ w us, PercentWord w us → ¬ w <:+: s.toList) :
    unescapePercent s = s := by
  rw [unescapePercent, (replaced_percentUnits s.toList).copied h, ofUnits_flatMap_units,
    String.ofList_toList]

theorem unitLength_unescapePercent (s : String) :
    unitLength (unescapePercent s) = ((percentUnits s.toList).flatMap fun u => [u]).length := by
  rw [unescapePercent, unitLength_ofUnits, List.flatMap_singleton']

theorem unitLength_unescapePercent_lt (h : PercentWord w us) (hin : w <:+: s.toList) :
    unitLength (unescapePercent s) < unitLength s := by
  rw [unitLength_unescapePercent]
  exact (replaced_percentUnits s.toList).shorter (fun c => List.flatMap_singleton' _)
    (fun _ _ => PercentWord.shorter) h hin

/-! ### entities -/

theorem EntityWord.shorter {cs : List Char} (h : EntityWord Entity.all w cs) :
    (cs.flatMap units).length < (w.flatMap units).length := by
  have hall : ∀ e ∈ Entity.all, ([e.char].flatMap units).length < (e.word.flatMap units).length := by
    decide
  obtain ⟨e, he, rfl, rfl⟩ := h
  exact hall e he

theorem unescapeEntities_of_none (h : ∀ w cs, EntityWord Entity.all w cs → ¬ w <:+: s.toList) :
    unescapeEntities s = s := by
  have hcopied := (replaced_unescapeEntities s).copied h
  rw [List.flatMap_singleton'] at hcopied
  exact String.toList_inj.mp hcopied

theorem unitLength_unescapeEntities_le (s : String) :
    unitLength (unescapeEntities s) ≤ unitLength s :=
  (replaced_unescapeEntities s).length_le (fun _ => List.flatMap_singleton ..)
    fun _ _ => EntityWord.shorter

theorem unitLength_unescapeEntities_lt {cs : List Char} (h : EntityWord Entity.all w cs)
    (hin : w <:+: s.toList) : unitLength (unescapeEntities s) < unitLength s :=
  (replaced_unescapeEntities s).shorter (fun _ => List.flatMap_singleton ..)
    (fun _ _ => EntityWord.shorter) h hin

/-! ### both -/

theorem normalize_of_none (h : ¬ HasEscape s) : normalize s = s := by
  have hpercent : unescapePercent s = s := unescapePercent_of_none fun w us hw hin =>
    h ⟨w, isEscape_iff.mpr (Or.inl ⟨us, hw⟩), hin⟩
  have hentities : unescapeEntities s = s := unescapeEntities_of_none fun w cs hw hin =>
    h ⟨w, isEscape_iff.mpr (Or.inr ⟨cs, hw⟩), hin⟩
  rw [normalize, hpercent, hentities]

/-- **A text with an escape becomes shorter.** -/
theorem unitLength_normalize_lt (h : HasEscape s) : unitLength (normalize s) < unitLength s := by
  by_cases hpercent : ∃ w us, PercentWord w us ∧ w <:+: s.toList
  · obtain ⟨w, us, hw, hin⟩ := hpercent
    exact Nat.lt_of_le_of_lt (unitLength_unescapeEntities_le (unescapePercent s))
      (unitLength_unescapePercent_lt hw hin)
  · -- without a percent escape the entities are those of the text itself
    have hsame : unescapePercent s = s := unescapePercent_of_none fun w us hw hin =>
      hpercent ⟨w, us, hw, hin⟩
    obtain ⟨w, hw, hin⟩ := h
    rcases isEscape_iff.mp hw with ⟨us, hw⟩ | ⟨cs, hw⟩
    · exact absurd ⟨w, us, hw, hin⟩ hpercent
    · rw [normalize, hsame]
      exact unitLength_unescapeEntities_lt hw hin

/-- **A text stays as it is exactly if it has no escape.** -/
theorem normalize_eq_self_iff : normalize s = s ↔ ¬ HasEscape s := by
  refine ⟨fun h hescape => ?_, normalize_of_none⟩
  have hlt := unitLength_normalize_lt hescape
  rw [h] at hlt
  exact Nat.lt_irrefl _ hlt

/-- **Again and again, it comes to an end**, after as many times as the text has units at most. -/
theorem exists_normalize_settled (s : String) :
    ∃ n ≤ unitLength s, normalize (normalize^[n] s) = normalize^[n] s := by
  induction hlength : unitLength s using Nat.strongRecOn generalizing s with
  | ind k ih =>
    by_cases h : HasEscape s
    · have hlt := unitLength_normalize_lt h
      rw [hlength] at hlt
      obtain ⟨n, hn, hsettled⟩ := ih _ hlt (normalize s) rfl
      refine ⟨n + 1, Nat.lt_of_le_of_lt hn hlt, ?_⟩
      rw [Function.iterate_succ_apply]
      exact hsettled
    · exact ⟨0, Nat.zero_le k, normalize_of_none h⟩

end ServiceDiagram.Escape

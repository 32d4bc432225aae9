import Mathlib.Logic.Function.Basic
import ServiceDiagram.Proofs.Json.Readers

/-!
# The fields of a value

Where a record is due, an object gives its fields by their keys and an array gives them by their
positions.  `Value.fields?` is what a value gives, as a function from keys.  `collect` and `placed`
follow the members and the elements one by one, as a reader meets them; `collect_eq_some` and
`placed_empty` say that this comes to the same.  -/

namespace ServiceDiagram.Json

/-- what is known of fields, by their keys -/
abbrev Known := String → Option Value

namespace Known

def nothing : Known := fun _ => none

def add (f : Known) (key : String) (v : Value) : Known := Function.update f key (some v)

def Within (f g : Known) : Prop := ∀ key v, f key = some v → g key = some v

variable {f g : Known} {key : String} {v : Value}

theorem add_self (f : Known) (key : String) (v : Value) : f.add key v key = some v :=
  Function.update_self ..

theorem add_of_ne {other : String} (h : other ≠ key) (f : Known) (v : Value) :
    f.add key v other = f other :=
  Function.update_of_ne h ..

theorem within_add (h : f key = none) (v : Value) : f.Within (f.add key v) := by
  intro other w hw
  rw [add_of_ne _ f v]
  · exact hw
  · rintro rfl
    rw [h] at hw
    cases hw

theorem Within.trans {k : Known} (h : f.Within g) (h' : g.Within k) : f.Within k :=
  fun key v hv => h' key v (h key v hv)

end Known

/-- **The fields of a value that stands for a record with these keys.**  Members may come in any
order, unknown ones are ignored, and no known one may be repeated; elements are the fields in their
order, and there may be fewer but not more. -/
def Value.fields? (keys : List String) : Value → Option Known
  | .object members =>
    if ∀ key ∈ keys, (members.map Prod.fst).count key ≤ 1 then some fun key => members.lookup key
    else none
  | .array items =>
    if items.length ≤ keys.length then some fun key => (keys.zip items).lookup key else none
  | _ => none

/-! ### members, one by one -/

/-- what is known after more members; a known key may not come again -/
def collect (keys : List String) : Known → List (String × Value) → Option Known
  | f, [] => some f
  | f, (key, v) :: members =>
    if key ∈ keys then
      if (f key).isSome then none else collect keys (f.add key v) members
    else collect keys f members

theorem within_of_collect {keys : List String} {members : List (String × Value)} {f g : Known}
    (h : collect keys f members = some g) : f.Within g := by
  induction members generalizing f with
  | nil =>
    cases h
    exact fun _ _ hv => hv
  | cons m members ih =>
    obtain ⟨key, v⟩ := m
    rw [collect] at h
    split at h
    · split at h
      · cases h
      · next hf => exact (Known.within_add (Option.not_isSome_iff_eq_none.mp hf) v).trans (ih h)
    · exact ih h

/-- each known key is given at most once, here or before -/
def Once (keys : List String) (f : Known) (members : List (String × Value)) : Prop :=
  ∀ key ∈ keys, (members.map Prod.fst).count key ≤ if (f key).isSome then 0 else 1

theorem once_cons_of_none {keys : List String} {f : Known} {key : String} {v : Value}
    {members : List (String × Value)} (hf : f key = none) :
    Once keys f ((key, v) :: members) ↔ Once keys (f.add key v) members := by
  unfold Once
  refine forall₂_congr fun other _ => ?_
  rw [List.map_cons, List.count_cons]
  by_cases h : key = other
  · rw [← h, Known.add_self, hf]
    simp
  · rw [Known.add_of_ne (Ne.symm h)]
    simp [h]

theorem once_cons_of_not_mem {keys : List String} {f : Known} {key : String} {v : Value}
    {members : List (String × Value)} (hk : key ∉ keys) :
    Once keys f ((key, v) :: members) ↔ Once keys f members := by
  unfold Once
  refine forall₂_congr fun other ho => ?_
  have h : key ≠ other := fun e => hk (e ▸ ho)
  rw [List.map_cons, List.count_cons]
  simp [h]

theorem collect_eq_none {keys : List String} {f : Known} {members : List (String × Value)}
    (h : ¬ Once keys f members) : collect keys f members = none := by
  induction members generalizing f with
  | nil =>
    refine absurd ?_ h
    intro key _
    exact Nat.zero_le _
  | cons m members ih =>
    obtain ⟨key, v⟩ := m
    rw [collect]
    split
    · split
      · rfl
      · next hf =>
        exact ih fun ho => h ((once_cons_of_none (Option.not_isSome_iff_eq_none.mp hf)).mpr ho)
    · next hk => exact ih fun ho => h ((once_cons_of_not_mem hk).mpr ho)

/-- without repetitions a member is found by its key, in whatever order the members come -/
theorem collect_eq_some {keys : List String} {f : Known} {members : List (String × Value)}
    (h : Once keys f members) :
    ∃ g, collect keys f members = some g ∧
      ∀ key ∈ keys, g key = (f key).or (members.lookup key) := by
  induction members generalizing f with
  | nil => exact ⟨f, rfl, fun key _ => (Option.or_none).symm⟩
  | cons m members ih =>
    obtain ⟨key, v⟩ := m
    rw [collect]
    by_cases hk : key ∈ keys
    · have hf : f key = none := by
        have := h key hk
        rw [List.map_cons, List.count_cons_self] at this
        split at this
        · omega
        · next hn => exact Option.not_isSome_iff_eq_none.mp hn
      rw [if_pos hk, hf]
      obtain ⟨g, hg, hl⟩ := ih ((once_cons_of_none hf).mp h)
      refine ⟨g, hg, fun other ho => ?_⟩
      rw [hl other ho]
      by_cases e : other = key
      · rw [e, Known.add_self, hf, List.lookup_cons_self]
        rfl
      · rw [Known.add_of_ne e, List.lookup_cons, beq_eq_false_iff_ne.mpr e]
    · rw [if_neg hk]
      obtain ⟨g, hg, hl⟩ := ih ((once_cons_of_not_mem hk).mp h)
      refine ⟨g, hg, fun other ho => ?_⟩
      have e : other ≠ key := fun e => hk (e ▸ ho)
      rw [hl other ho, List.lookup_cons, beq_eq_false_iff_ne.mpr e]

/-! ### elements, one by one -/

def placed (f : Known) (keys : List String) (items : List Value) : Known :=
  fun key => ((keys.zip items).lookup key).or (f key)

theorem placed_nil (f : Known) (keys : List String) : placed f keys [] = f := by
  funext key
  rw [placed, List.zip_nil_right]
  rfl

theorem lookup_zip_of_not_mem {keys : List String} {items : List Value} {key : String}
    (h : key ∉ keys) : (keys.zip items).lookup key = none := by
  rw [List.lookup_eq_none_iff]
  intro p hp
  have hne : key ≠ p.1 := fun e => h (e ▸ (List.of_mem_zip hp).1)
  simpa using hne

theorem placed_cons {f : Known} {key : String} {keys : List String} (v : Value) (items : List Value)
    (h : key ∉ keys) : placed f (key :: keys) (v :: items) = placed (f.add key v) keys items := by
  funext other
  unfold placed
  rw [List.zip_cons_cons, List.lookup_cons]
  by_cases e : other = key
  · rw [e, beq_self_eq_true, lookup_zip_of_not_mem h, Known.add_self]
    rfl
  · rw [beq_eq_false_iff_ne.mpr e, Known.add_of_ne e]

theorem placed_empty (keys : List String) (items : List Value) :
    placed .nothing keys items = fun key => (keys.zip items).lookup key := by
  funext key
  exact Option.or_none

theorem placed_of_not_mem {f : Known} {keys : List String} {items : List Value} {key : String}
    (h : key ∉ keys) : placed f keys items key = f key := by
  rw [placed, lookup_zip_of_not_mem h]
  rfl

theorem within_placed {f : Known} {keys : List String} (items : List Value)
    (h : ∀ key ∈ keys, f key = none) : f.Within (placed f keys items) := by
  intro key v hv
  rw [placed_of_not_mem]
  · exact hv
  · intro hk
    rw [h key hk] at hv
    cases hv

end ServiceDiagram.Json

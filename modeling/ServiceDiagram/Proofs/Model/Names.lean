import ServiceDiagram.Model.Context

/-!
# Services by name

Looking up and changing services by name comes to the first one of a name.  `IsFirst ss i s` says that
entry `i` is such a service `s`; it is what every entry is if the names are pairwise distinct
(`nodup_names_iff`), and nothing less makes a change by name a change of the entry
(`isFirst_iff_changes`).
-/

namespace ServiceDiagram.Context

/-- **The first service with its name**: entry `i` is `s`, and no entry in front has the same name. -/
structure IsFirst (ss : List Service) (i : Nat) (s : Service) : Prop where
  entry : ss[i]? = some s
  others : ∀ (j : Nat) (t : Service), j < i → ss[j]? = some t → t.name ≠ s.name

variable {s t : Service} {ss : List Service} {i : Nat}

theorem isFirst_zero (s : Service) (ss : List Service) : IsFirst (s :: ss) 0 s :=
  ⟨rfl, fun _ _ hj => absurd hj (Nat.not_lt_zero _)⟩

theorem isFirst_succ : IsFirst (t :: ss) (i + 1) s ↔ t.name ≠ s.name ∧ IsFirst ss i s := by
  constructor
  · intro h
    refine ⟨h.others 0 t (Nat.succ_pos i) rfl, h.entry, fun j u hj hu => ?_⟩
    exact h.others (j + 1) u (Nat.succ_lt_succ hj) hu
  · rintro ⟨hne, h⟩
    refine ⟨h.entry, fun j u hj hu => ?_⟩
    cases j with
    | zero =>
      cases hu
      exact hne
    | succ j => exact h.others j u (Nat.lt_of_succ_lt_succ hj) hu

/-! ### finding and changing -/

theorem IsFirst.find? (h : IsFirst ss i s) : ss.find? (·.name == s.name) = some s := by
  induction ss generalizing i with
  | nil => cases h.entry
  | cons t ss ih =>
    cases i with
    | zero =>
      cases h.entry
      exact List.find?_cons_of_pos (beq_self_eq_true s.name)
    | succ i =>
      obtain ⟨hne, hrest⟩ := isFirst_succ.mp h
      rw [List.find?_cons_of_neg (by rw [beq_iff_eq]; exact hne)]
      exact ih hrest

theorem IsFirst.changeFirst? (h : IsFirst ss i s) (f : Service → Service) :
    changeFirst? s.name f ss = some (ss.set i (f s)) := by
  induction ss generalizing i with
  | nil => cases h.entry
  | cons t ss ih =>
    cases i with
    | zero =>
      cases h.entry
      exact if_pos (beq_self_eq_true s.name)
    | succ i =>
      obtain ⟨hne, hrest⟩ := isFirst_succ.mp h
      rw [Context.changeFirst?, if_neg (by rw [beq_iff_eq]; exact hne), ih hrest]
      rfl

theorem changeFirst?_eq_none {name : String} (h : name ∉ ss.map (·.name)) (f : Service → Service) :
    changeFirst? name f ss = none := by
  induction ss with
  | nil => rfl
  | cons t ss ih =>
    rw [List.map_cons, List.mem_cons, not_or] at h
    rw [Context.changeFirst?, if_neg (by rw [beq_iff_eq]; exact Ne.symm h.1), ih h.2]
    rfl

theorem exists_isFirst {name : String} (h : name ∈ ss.map (·.name)) :
    ∃ i s, IsFirst ss i s ∧ s.name = name := by
  induction ss with
  | nil => exact absurd h List.not_mem_nil
  | cons t ss ih =>
    by_cases hname : t.name = name
    · exact ⟨0, t, isFirst_zero t ss, hname⟩
    · have hrest : name ∈ ss.map (·.name) := (List.mem_cons.mp h).resolve_left (Ne.symm hname)
      obtain ⟨i, s, hfirst, rfl⟩ := ih hrest
      exact ⟨i + 1, s, isFirst_succ.mpr ⟨hname, hfirst⟩, rfl⟩

/-- an entry that every change by its name comes to is the first one with the name -/
theorem isFirst_of_changes (hi : ss[i]? = some s)
    (h : ∀ f, changeFirst? s.name f ss = some (ss.set i (f s))) : IsFirst ss i s := by
  induction ss generalizing i with
  | nil => cases hi
  | cons t ss ih =>
    cases i with
    | zero =>
      cases hi
      exact isFirst_zero s ss
    | succ i =>
      have hne : t.name ≠ s.name := by
        intro he
        -- otherwise one more association would go to the service in front
        have hf := h (·.associate (.new .directed ""))
        rw [Context.changeFirst?, if_pos (beq_iff_eq.mpr he)] at hf
        have hsame := congrArg (·.associations) (List.cons.inj (Option.some.inj hf)).1
        exact List.cons_ne_nil _ _ (List.append_right_eq_self.mp hsame)
      refine isFirst_succ.mpr ⟨hne, ih hi fun f => ?_⟩
      have hf := h f
      rw [Context.changeFirst?, if_neg (by rw [beq_iff_eq]; exact hne), List.set_cons_succ] at hf
      obtain ⟨us, hus, he⟩ := Option.map_eq_some_iff.mp hf
      rw [hus, (List.cons.inj he).2]

/-- **A change by name is a change of an entry exactly if the entry is the first one with the name.** -/
theorem isFirst_iff_changes (hi : ss[i]? = some s) :
    IsFirst ss i s ↔ ∀ f, changeFirst? s.name f ss = some (ss.set i (f s)) :=
  ⟨fun h f => h.changeFirst? f, isFirst_of_changes hi⟩

/-! ### names in a context -/

theorem has_iff {c : Context} {name : String} : c.has name = true ↔ name ∈ c.serviceNames := by
  unfold has find? serviceNames
  rw [List.find?_isSome, List.mem_map]
  simp only [beq_iff_eq]

/-! ### distinct names -/

theorem nodup_names_concat (h : (ss.map (·.name)).Nodup) (hs : s.name ∉ ss.map (·.name)) :
    ((ss ++ [s]).map (·.name)).Nodup := by
  rw [List.map_append, List.map_singleton]
  refine List.nodup_append.mpr ⟨h, List.pairwise_singleton _ _, fun a ha b hb he => hs ?_⟩
  have hname : b = s.name := List.mem_singleton.mp hb
  rwa [he, hname] at ha

theorem names_set {f : Service → Service} (hs : ss[i]? = some s) (hf : (f s).name = s.name) :
    (ss.set i (f s)).map (·.name) = ss.map (·.name) := by
  obtain ⟨hi, rfl⟩ := List.getElem?_eq_some_iff.mp hs
  have hi' : i < (ss.map (·.name)).length := by rwa [List.length_map]
  have hname : (f ss[i]).name = (ss.map (·.name))[i] := by rw [hf, List.getElem_map]
  rw [List.map_set, hname, List.set_getElem_self]

theorem nodup_names_iff :
    (ss.map (·.name)).Nodup ↔ ∀ (i : Nat) (s : Service), ss[i]? = some s → IsFirst ss i s := by
  rw [List.Nodup, List.pairwise_map, List.pairwise_iff_getElem]
  constructor
  · intro h i s hs
    refine ⟨hs, fun j t hj ht => ?_⟩
    obtain ⟨hi, rfl⟩ := List.getElem?_eq_some_iff.mp hs
    obtain ⟨hj', rfl⟩ := List.getElem?_eq_some_iff.mp ht
    exact h j i hj' hi hj
  · intro h i j hi hj hij
    exact (h j ss[j] (List.getElem?_eq_getElem hj)).others i ss[i] hij (List.getElem?_eq_getElem hi)

end ServiceDiagram.Context

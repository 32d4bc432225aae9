import ServiceDiagram.Proofs.Model.Canonical

/-!
# Edits

`Context.Edit c d` says that `d` is `c` after one edit at most: a new service, or one change of the
first service with some name.  An edit keeps contexts canonical (`Edit.canonical`), and it only
adds: `c.Extends d` says that `d` has everything that `c` has at the place where `c` has it.  -/

namespace ServiceDiagram

/-! ### extensions -/

/-- **What a context has, the other has too**: the same name and framework, the same services in
front, and for each of them the same associations in front. -/
structure Context.Extends (c d : Context) : Prop where
  name : d.name = c.name
  framework : d.framework = c.framework
  services : c.serviceNames <+: d.serviceNames
  associations : ∀ (i : Nat) (s : Service), c.services[i]? = some s →
    ∃ t, d.services[i]? = some t ∧ s.associations <+: t.associations

namespace Context

theorem Extends.refl (c : Context) : c.Extends c where
  name := rfl
  framework := rfl
  services := List.prefix_rfl
  associations := fun _ s hs => ⟨s, hs, List.prefix_rfl⟩

theorem Extends.trans {c d e : Context} (h : c.Extends d) (h' : d.Extends e) : c.Extends e where
  name := h'.name.trans h.name
  framework := h'.framework.trans h.framework
  services := h.services.trans h'.services
  associations := by
    intro i s hs
    obtain ⟨t, ht, hst⟩ := h.associations i s hs
    obtain ⟨u, hu, htu⟩ := h'.associations i t ht
    exact ⟨u, hu, hst.trans htu⟩

/-! ### changes of one service -/

theorem changeFirst?_eq_some {name : String} {f : Service → Service} {ss ts : List Service}
    (h : changeFirst? name f ss = some ts) :
    ∃ front s back, ss = front ++ s :: back ∧ ts = front ++ f s :: back := by
  induction ss generalizing ts with
  | nil => cases h
  | cons s ss ih =>
    rw [changeFirst?] at h
    split at h
    · cases h
      exact ⟨[], s, ss, rfl, rfl⟩
    · obtain ⟨us, hu, rfl⟩ := Option.map_eq_some_iff.mp h
      obtain ⟨front, t, back, rfl, rfl⟩ := ih hu
      exact ⟨s :: front, t, back, rfl, rfl⟩

theorem change?_eq_some {c d : Context} {name : String} {f : Service → Service}
    (h : c.change? name f = some d) :
    ∃ front s back, c.services = front ++ s :: back ∧
      d = { c with services := front ++ f s :: back } := by
  obtain ⟨ts, ht, rfl⟩ := Option.map_eq_some_iff.mp h
  obtain ⟨front, s, back, hs, rfl⟩ := changeFirst?_eq_some ht
  exact ⟨front, s, back, hs, rfl⟩

theorem extends_of_change {c d : Context} {name : String} {f : Service → Service}
    (h : c.change? name f = some d) (hname : ∀ s, (f s).name = s.name)
    (hassoc : ∀ s, s.associations <+: (f s).associations) : c.Extends d := by
  obtain ⟨front, s, back, hs, rfl⟩ := change?_eq_some h
  refine ⟨rfl, rfl, ?_, ?_⟩
  · have e : (front ++ f s :: back).map (·.name) = c.serviceNames := by
      rw [serviceNames, hs, List.map_append, List.map_append, List.map_cons, List.map_cons, hname]
    show c.serviceNames <+: (front ++ f s :: back).map (·.name)
    exact e ▸ List.prefix_rfl
  · intro i t ht
    rw [hs] at ht
    show ∃ u, (front ++ f s :: back)[i]? = some u ∧ _
    by_cases hi : i = front.length
    · subst hi
      rw [List.getElem?_append_right (Nat.le_refl _), Nat.sub_self] at ht ⊢
      cases ht
      exact ⟨f s, rfl, hassoc s⟩
    · -- all other services stay
      refine ⟨t, ?_, List.prefix_rfl⟩
      rw [← ht, List.getElem?_append, List.getElem?_append]
      split
      · rfl
      · obtain ⟨k, hk⟩ := Nat.exists_eq_succ_of_ne_zero (by omega : i - front.length ≠ 0)
        rw [hk, List.getElem?_cons_succ, List.getElem?_cons_succ]

theorem canonical_of_change {c d : Context} {name : String} {f : Service → Service}
    (h : c.change? name f = some d) (hc : c.Canonical)
    (hf : ∀ s : Service, s.Canonical → (f s).Canonical) : d.Canonical := by
  obtain ⟨front, s, back, hs, rfl⟩ := change?_eq_some h
  unfold Canonical at hc ⊢
  rw [hs, List.forall_mem_append, List.forall_mem_cons] at hc
  rw [List.forall_mem_append, List.forall_mem_cons]
  exact ⟨hc.1, hf s hc.2.1, hc.2.2⟩

/-! ### new services -/

theorem extends_of_add {c d : Context} {s : Service} (h : c.add? s = some d) : c.Extends d := by
  unfold add? at h
  split at h
  · cases h
  · cases h
    refine ⟨rfl, rfl, ?_, fun i t ht => ⟨t, ?_, List.prefix_rfl⟩⟩
    · show c.services.map (·.name) <+: (c.services ++ [s]).map (·.name)
      rw [List.map_append]
      exact List.prefix_append ..
    · obtain ⟨hi, -⟩ := List.getElem?_eq_some_iff.mp ht
      rw [← ht]
      exact List.getElem?_append_left hi

theorem canonical_of_add {c d : Context} {s : Service} (h : c.add? s = some d)
    (hc : c.Canonical) (hs : s.Canonical) : d.Canonical := by
  unfold add? at h
  split at h
  · cases h
  · cases h
    unfold Canonical at hc ⊢
    rw [List.forall_mem_append, List.forall_mem_singleton]
    exact ⟨hc, hs⟩

/-! ### edits -/

/-- **The context after one edit at most.** -/
inductive Edit (c : Context) : Context → Prop
  | same : Edit c c
  | service {d} (name : String) (h : c.add? (.new name) = some d) : Edit c d
  | association {d} (name : String) (a : Association) (ha : a.kind ∈ AssociationKind.known)
      (h : c.change? name (·.associate a) = some d) : Edit c d
  | stereotype {d} (name : String) (value : Option String)
      (h : c.change? name (fun s => { s with stereotype := value }) = some d) : Edit c d
  | kind {d} (name : String) (value : Option String)
      (h : c.change? name (fun s => { s with kind := value }) = some d) : Edit c d

theorem Edit.extends {c d : Context} (h : c.Edit d) : c.Extends d := by
  cases h with
  | same => exact .refl c
  | service name h => exact extends_of_add h
  | association name a ha h =>
    exact extends_of_change h (fun _ => rfl) fun s => List.prefix_append ..
  | stereotype name value h => exact extends_of_change h (fun _ => rfl) fun _ => List.prefix_rfl
  | kind name value h => exact extends_of_change h (fun _ => rfl) fun _ => List.prefix_rfl

theorem Edit.canonical {c d : Context} (h : c.Edit d) (hc : c.Canonical) : d.Canonical := by
  cases h with
  | same => exact hc
  | service name h => exact canonical_of_add h hc fun a ha => absurd ha List.not_mem_nil
  | association name a ha h =>
    refine canonical_of_change h hc fun s hs => ?_
    show ∀ b ∈ s.associations ++ [a], b.kind.Canonical
    rw [List.forall_mem_append, List.forall_mem_singleton]
    exact ⟨hs, AssociationKind.canonical_of_mem_known ha⟩
  | stereotype name value h => exact canonical_of_change h hc fun _ hs => hs
  | kind name value h => exact canonical_of_change h hc fun _ hs => hs

end Context

end ServiceDiagram

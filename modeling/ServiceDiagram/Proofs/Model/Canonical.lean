import ServiceDiagram.Model.Context

/-!
# Kinds and their labels

A kind is stored as its label.  The label of a canonical kind is read back as the kind
(`ofLabel_label_of_canonical`), reading makes nothing but canonical kinds (`canonical_ofLabel`), and
no label is lost (`label_ofLabel`).  A context is canonical if all its kinds are.  -/

namespace ServiceDiagram

namespace AssociationKind

theorem ofLabel_label_of_canonical {k : AssociationKind} (h : k.Canonical) :
    ofLabel k.label = k := by
  cases k with
  | other label =>
    unfold ofLabel
    rw [List.find?_eq_none.mpr]
    · rfl
    · intro k hk
      exact fun e => h k hk (eq_of_beq e)
  | _ => rfl

theorem canonical_of_mem_known {k : AssociationKind} (h : k ∈ known) : k.Canonical := by
  cases k with
  | other label => exact absurd h (by simp [known])
  | _ => trivial

theorem canonical_ofLabel (s : String) : (ofLabel s).Canonical := by
  unfold ofLabel
  cases h : known.find? (·.label == s) with
  | some k => exact canonical_of_mem_known (List.mem_of_find?_eq_some h)
  | none =>
    intro k hk e
    exact List.find?_eq_none.mp h k hk (beq_iff_eq.mpr e)

theorem label_ofLabel (s : String) : (ofLabel s).label = s := by
  unfold ofLabel
  cases h : known.find? (·.label == s) with
  | some k =>
    have hk := List.find?_some h
    exact eq_of_beq hk
  | none => rfl

end AssociationKind

def Service.Canonical (s : Service) : Prop := ∀ a ∈ s.associations, a.kind.Canonical

def Context.Canonical (c : Context) : Prop := ∀ s ∈ c.services, s.Canonical

theorem Context.Canonical.set {c : Context} (h : c.Canonical) (i : Nat) {s : Service}
    (hs : s.Canonical) : Context.Canonical { c with services := c.services.set i s } := by
  intro t ht
  rcases List.mem_or_eq_of_mem_set ht with ht | rfl
  · exact h t ht
  · exact hs

theorem Context.canonical_of_bare {c : Context} (h : ∀ s ∈ c.services, s.associations = []) :
    c.Canonical := by
  intro s hs a ha
  rw [h s hs] at ha
  cases ha

end ServiceDiagram

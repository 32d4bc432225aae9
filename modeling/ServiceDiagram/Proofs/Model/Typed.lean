import ServiceDiagram.Proofs.Diagram.Itemized
import ServiceDiagram.Proofs.Model.Edits
import ServiceDiagram.Proofs.Model.Names
import ServiceDiagram.Proofs.Surroundings.Answers

/-!
# Contexts that were typed

A context that was typed at a terminal has texts of one line, services with names that differ, and
associations of known kinds; names and targets are trimmed and not empty.  Edits with what can be typed
keep it so (`Context.Typed.add`, `Context.Typed.change`), and its diagram has a line for each item
(`Context.Typed.itemized`).
-/

namespace ServiceDiagram

open Text

structure Association.Typed (a : Association) : Prop where
  kind : a.kind ∈ AssociationKind.known
  target : Word a.target
  text : ∀ t, a.text = some t → OneLine t
  localEnd : ∀ m, a.localMultiplicity = some m → OneLine m
  remoteEnd : ∀ m, a.remoteMultiplicity = some m → OneLine m

structure Service.Typed (s : Service) : Prop where
  name : Word s.name
  kind : ∀ k, s.kind = some k → OneLine k
  stereotype : ∀ st, s.stereotype = some st → OneLine st
  associations : ∀ a ∈ s.associations, a.Typed

/-- **A context as it can be typed** -/
structure Context.Typed (c : Context) : Prop where
  name : OneLine c.name
  names : c.serviceNames.Nodup
  services : ∀ s ∈ c.services, s.Typed

/-! ### texts -/

theorem AssociationKind.oneLine_label {k : AssociationKind} (h : k ∈ known) : OneLine k.label := by
  revert k
  decide

theorem Association.Typed.texts {a : Association} (h : a.Typed) : ∀ t ∈ a.texts, OneLine t := by
  simp only [Association.texts, List.forall_mem_cons, List.forall_mem_append, Option.mem_toList]
  exact ⟨AssociationKind.oneLine_label h.kind, h.target.oneLine, h.text, h.localEnd, h.remoteEnd⟩

theorem Service.Typed.texts {s : Service} (h : s.Typed) : ∀ t ∈ s.texts, OneLine t := by
  simp only [Service.texts, List.forall_mem_cons, List.forall_mem_append, Option.mem_toList]
  refine ⟨h.name.oneLine, h.kind, h.stereotype, fun t ht => ?_⟩
  obtain ⟨a, ha, ht⟩ := List.mem_flatMap.mp ht
  exact (h.associations a ha).texts t ht

theorem Context.Typed.texts {c : Context} (h : c.Typed) : ∀ t ∈ c.texts, OneLine t := by
  refine List.forall_mem_cons.mpr ⟨h.name, fun t ht => ?_⟩
  obtain ⟨s, hs, ht⟩ := List.mem_flatMap.mp ht
  exact (h.services s hs).texts t ht

theorem Context.Typed.itemized {c : Context} (h : c.Typed) : c.Itemized :=
  Context.itemized h.texts fun s hs a ha => ((h.services s hs).associations a ha).kind

/-! ### edits -/

theorem Association.typed_new {kind : AssociationKind} (hk : kind ∈ AssociationKind.known)
    {target : String} (ht : Word target) : (Association.new kind target).Typed :=
  ⟨hk, ht, nofun, nofun, nofun⟩

theorem Service.Typed.associate {s : Service} (h : s.Typed) {a : Association} (ha : a.Typed) :
    (s.associate a).Typed where
  name := h.name
  kind := h.kind
  stereotype := h.stereotype
  associations := by
    show ∀ b ∈ s.associations ++ [a], b.Typed
    rw [List.forall_mem_append, List.forall_mem_singleton]
    exact ⟨h.associations, ha⟩

namespace Context

variable {c d : Context}

theorem typed_new {name : String} (h : OneLine name) (f : Framework) : (new name f).Typed where
  name := by
    unfold new
    simp only
    split
    · decide
    · exact h
  names := List.nodup_nil
  services := List.forall_mem_nil _

theorem Typed.add (h : c.Typed) {name : String} (hname : Word name)
    (hadd : c.add? (.new name) = some d) : d.Typed := by
  unfold add? at hadd
  split at hadd
  · cases hadd
  · next hnew =>
    cases hadd
    have hfresh : name ∉ c.serviceNames := fun hm => hnew (has_iff.mpr hm)
    refine ⟨h.name, nodup_names_concat h.names hfresh, ?_⟩
    show ∀ s ∈ c.services ++ [Service.new name], s.Typed
    rw [List.forall_mem_append, List.forall_mem_singleton]
    exact ⟨h.services, hname, nofun, nofun, List.forall_mem_nil _⟩

theorem Typed.change (h : c.Typed) {name : String} {f : Service → Service}
    (hchange : c.change? name f = some d) (hname : ∀ s, (f s).name = s.name)
    (hf : ∀ s : Service, s.Typed → (f s).Typed) : d.Typed := by
  obtain ⟨front, s, back, hs, rfl⟩ := change?_eq_some hchange
  have hservices := h.services
  rw [hs, List.forall_mem_append, List.forall_mem_cons] at hservices
  refine ⟨h.name, ?_, ?_⟩
  · have he : (front ++ f s :: back).map (·.name) = c.serviceNames := by
      rw [serviceNames, hs, List.map_append, List.map_append, List.map_cons, List.map_cons, hname]
    show ((front ++ f s :: back).map (·.name)).Nodup
    exact he ▸ h.names
  · show ∀ t ∈ front ++ f s :: back, t.Typed
    rw [List.forall_mem_append, List.forall_mem_cons]
    exact ⟨hservices.1, hf s hservices.2.1, hservices.2.2⟩

end Context

end ServiceDiagram

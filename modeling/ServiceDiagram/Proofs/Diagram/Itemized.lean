import ServiceDiagram.Proofs.Diagram.Injective

/-!
# One line for each item

Where no text has a line feed and all kinds are known, the diagram has a line for each thing that it
draws: cut at its line feeds it is the frame, the title, and for each service an empty line, the header,
a line for the stereotype if there is one, a line for the parents if there are any, and a line for each
association.  None of the lines between looks like the frame.

* `Service.Itemized`, `Context.Itemized`   this, said of a service and of a context.
-/

namespace ServiceDiagram

open Text

/-- **A service that is drawn line by line**: behind the header a line if there is a stereotype, a line
if it inherits, and a line for each association, in order. -/
structure Service.Itemized (s : Service) : Prop where
  lines : s.lines =
    s.headerLine :: (s.stereotypeLine?.toList ++ s.inheritsLine?.toList ++ s.associationLines)
  stereotype : s.stereotypeLine?.isSome = s.stereotype.isSome
  inherits : s.inheritsLine?.isSome ↔ ∃ a ∈ s.associations, a.kind = .inherits
  associations : s.associationLines.map some = s.associations.map (·.line? s.name)

/-- **A diagram that has a line for each item.** -/
structure Context.Itemized (c : Context) : Prop where
  /-- the lines between the line feeds; nothing stands behind the last one -/
  cut : parts '\n' c.diagram.toList = (c.lines ++ [""]).map String.toList
  lines : c.lines =
    "@startuml" :: c.titleLine :: (c.services.flatMap (fun s => "" :: s.lines) ++ ["@enduml"])
  services : ∀ s ∈ c.services, s.Itemized
  /-- no line but the first and the last is one of the frame -/
  first : c.lines.count "@startuml" = 1
  last : c.lines.count "@enduml" = 1

/-! ### services -/

theorem map_filterMap_of_isSome {α β : Type} {f : α → Option β} {as : List α}
    (h : ∀ a ∈ as, (f a).isSome) : (as.filterMap f).map some = as.map f := by
  induction as with
  | nil => rfl
  | cons a as ih =>
    rw [List.forall_mem_cons] at h
    obtain ⟨b, hb⟩ := Option.isSome_iff_exists.mp h.1
    rw [List.filterMap_cons_some hb, List.map_cons, List.map_cons, ih h.2, hb]

namespace Service

theorem inheritsLine?_isSome (s : Service) :
    s.inheritsLine?.isSome ↔ ∃ a ∈ s.associations, a.kind = .inherits := by
  have hparents : s.parents.isEmpty ↔ ¬ ∃ a ∈ s.associations, a.kind = .inherits := by
    rw [List.isEmpty_iff, parents, List.map_eq_nil_iff, associationsOf, List.filter_eq_nil_iff]
    simp only [decide_eq_true_eq, not_exists, not_and]
  unfold inheritsLine?
  by_cases h : s.parents.isEmpty
  · rw [if_pos h]
    exact ⟨nofun, fun hex => absurd hex (hparents.mp h)⟩
  · rw [if_neg h]
    exact ⟨fun _ => Classical.not_not.mp (mt hparents.mpr h), fun _ => rfl⟩

theorem line?_isSome {a : Association} (h : a.kind ∈ AssociationKind.known) (name : String) :
    (a.line? name).isSome := by
  unfold Association.line?
  cases hk : a.kind with
  | other label => rw [hk] at h; exact absurd h (by simp [AssociationKind.known])
  | _ => rfl

theorem itemized {s : Service} (h : ∀ a ∈ s.associations, a.kind ∈ AssociationKind.known) :
    s.Itemized where
  lines := rfl
  stereotype := Option.isSome_map
  inherits := s.inheritsLine?_isSome
  associations := map_filterMap_of_isSome fun a ha => line?_isSome (h a ha) s.name

end Service

/-! ### contexts -/

namespace Context

variable {c : Context}

/-- a line that is not one of the frame -/
def IsInner (l : String) : Prop := l = "" ∨ ' ' ∈ l.toList

def innerLines (c : Context) : List String :=
  c.titleLine :: c.services.flatMap fun s => "" :: s.lines

theorem lines_eq (c : Context) : c.lines = "@startuml" :: (c.innerLines ++ ["@enduml"]) := rfl

theorem isInner_innerLines (c : Context) : ∀ l ∈ c.innerLines, IsInner l := by
  intro l hl
  rcases List.mem_cons.mp hl with rfl | hl
  · right
    rw [titleLine, String.toList_append, String.toList_append, String.toList_append]
    simp
  · obtain ⟨s, -, hl⟩ := List.mem_flatMap.mp hl
    rcases List.mem_cons.mp hl with rfl | hl
    · exact Or.inl rfl
    · rw [← s.lines_node] at hl
      exact Or.inr (s.node.blank_mem_lines l hl)

theorem count_innerLines {l : String} (h : ¬ IsInner l) : c.innerLines.count l = 0 :=
  List.count_eq_zero.mpr fun hl => h (c.isInner_innerLines l hl)

theorem oneLine_lines (h : ∀ t ∈ c.texts, OneLine t) : ∀ l ∈ c.lines, OneLine l := by
  rw [← lines_view]
  refine Drawn.View.oneLine_of_lined (h c.name List.mem_cons_self) fun n hn => ?_
  obtain ⟨s, hs, rfl⟩ := List.mem_map.mp hn
  exact Service.node_lined (texts_of_service h s hs)

/-- **A diagram has a line for each item** if no text has a line feed and all kinds are known. -/
theorem itemized (htexts : ∀ t ∈ c.texts, OneLine t)
    (hkinds : ∀ s ∈ c.services, ∀ a ∈ s.associations, a.kind ∈ AssociationKind.known) :
    c.Itemized where
  cut := by
    rw [diagram, parts_unlines (oneLine_lines htexts), List.map_append]
    rfl
  lines := rfl
  services := fun s hs => Service.itemized (hkinds s hs)
  first := by
    have hinner : ¬ IsInner "@startuml" := by unfold IsInner; decide
    rw [lines_eq, List.count_cons_self, List.count_append, count_innerLines hinner]
    decide
  last := by
    have hinner : ¬ IsInner "@enduml" := by unfold IsInner; decide
    rw [lines_eq, List.count_cons_of_ne (by decide), List.count_append, count_innerLines hinner]
    decide

end Context

end ServiceDiagram

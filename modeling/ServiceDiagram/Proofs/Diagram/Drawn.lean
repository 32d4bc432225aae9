import ServiceDiagram.Diagram

/-!
# What is drawn

The view of a context keeps what its diagram shows: the services in order, and of their associations
the ones of a known kind with the fields that this kind uses.  A text or a multiplicity that is absent
counts as empty.  The diagram is drawn from the view (`lines_view`), so nothing else has a part in it
(`diagram_of_view`).

* `Drawn.Edge`   an association that is drawn;
* `Drawn.Node`   a service, with its edges;
* `Drawn.View`   a context, with its nodes.
-/

namespace ServiceDiagram

namespace Drawn

inductive Edge where
  | directed (target text : String)
  | contains (target : String)
  | aggregation (localEnd remoteEnd target text : String)
  | implements (target : String)
  | inherits (target : String)
  deriving DecidableEq, Repr

@[ext]
structure Node where
  name : String
  /-- the kind in upper case, empty if there is none -/
  upperKind : String
  stereotype : Option String
  edges : List Edge
  deriving DecidableEq, Repr

@[ext]
structure View where
  name : String
  framework : Framework
  nodes : List Node
  deriving DecidableEq, Repr

end Drawn

/-- what is drawn of an association, `none` if its kind is not known -/
def Association.edge? (a : Association) : Option Drawn.Edge :=
  let text := a.text.getD ""
  match a.kind with
  | .directed => some (.directed a.target text)
  | .contains => some (.contains a.target)
  | .aggregation =>
    some (.aggregation (a.localMultiplicity.getD "") (a.remoteMultiplicity.getD "") a.target text)
  | .implements => some (.implements a.target)
  | .inherits => some (.inherits a.target)
  | .other _ => none

def Service.node (s : Service) : Drawn.Node :=
  ⟨s.name, s.upperKind, s.stereotype, s.associations.filterMap (·.edge?)⟩

def Context.view (c : Context) : Drawn.View := ⟨c.name, c.framework, c.services.map (·.node)⟩

/-! ### drawing from a view -/

namespace Drawn

def Edge.line (name : String) : Edge → String
  | .directed target text => name ++ " -r-> " ++ target ++ " : " ++ text
  | .contains target => name ++ " -r-* " ++ target
  | .aggregation localEnd remoteEnd target text =>
    name ++ " \"" ++ localEnd ++ "\" -r-o \"" ++ remoteEnd ++ "\" " ++ target ++ " : " ++ text
  | .implements target => name ++ " --() " ++ target
  | .inherits target => name ++ " -[hidden]r> " ++ target

def Edge.parent? : Edge → Option String
  | .inherits target => some target
  | _ => none

namespace Node

def headerLine (n : Node) : String := "' " ++ n.name ++ " : " ++ n.upperKind

def stereotypeLine? (n : Node) : Option String :=
  n.stereotype.map fun st => "class " ++ n.name ++ " << " ++ st ++ " >>"

def parents (n : Node) : List String := n.edges.filterMap (·.parent?)

def inheritsLine? (n : Node) : Option String :=
  if n.parents.isEmpty then none
  else some ("class " ++ n.name ++ " extends " ++ ", ".intercalate n.parents)

def edgeLines (n : Node) : List String := n.edges.map (·.line n.name)

def lines (n : Node) : List String :=
  n.headerLine :: (n.stereotypeLine?.toList ++ (n.inheritsLine?.toList ++ n.edgeLines))

end Node

namespace View

def titleLine (v : View) : String := "title " ++ v.name ++ " (" ++ v.framework.label ++ ")"

def lines (v : View) : List String :=
  "@startuml" :: v.titleLine :: (v.nodes.flatMap (fun n => "" :: n.lines) ++ ["@enduml"])

end View

end Drawn

/-! ### the diagram is drawn from the view -/

theorem Association.line?_edge (name : String) (a : Association) :
    a.line? name = a.edge?.map (·.line name) := by
  unfold line? edge?
  cases a.kind <;> rfl

theorem Association.parent?_edge (a : Association) :
    (a.edge?.bind fun e => e.parent?) = if a.kind = .inherits then some a.target else none := by
  unfold edge?
  cases a.kind <;> rfl

namespace Service

theorem parents_node (s : Service) : s.node.parents = s.parents := by
  show (s.associations.filterMap (·.edge?)).filterMap (·.parent?) =
    (s.associations.filter (·.kind = .inherits)).map (·.target)
  rw [List.filterMap_filterMap, ← List.filterMap_eq_map, List.filterMap_filter]
  congr 1
  funext a
  rw [a.parent?_edge]
  simp

theorem edgeLines_node (s : Service) : s.node.edgeLines = s.associationLines := by
  show (s.associations.filterMap (·.edge?)).map (·.line s.name) = _
  rw [List.map_filterMap]
  simp only [← Association.line?_edge]
  rfl

theorem lines_node (s : Service) : s.node.lines = s.lines := by
  unfold Drawn.Node.lines lines
  rw [edgeLines_node, List.append_assoc]
  have hinherits : s.node.inheritsLine? = s.inheritsLine? := by
    unfold Drawn.Node.inheritsLine? inheritsLine?
    rw [parents_node]
    rfl
  rw [hinherits]
  rfl

end Service

namespace Context

theorem lines_view (c : Context) : c.view.lines = c.lines := by
  have hnodes : (c.services.map (·.node)).flatMap (fun n => "" :: n.lines) =
      c.services.flatMap fun s => "" :: s.lines := by
    rw [List.flatMap_map]
    simp only [Service.lines_node]
  unfold Drawn.View.lines lines
  show _ :: _ :: ((c.services.map (·.node)).flatMap _ ++ _) = _
  rw [hnodes]
  rfl

/-- **Nothing but the view has a part in the diagram.** -/
theorem diagram_of_view {c d : Context} (h : c.view = d.view) : c.diagram = d.diagram := by
  unfold diagram
  rw [← lines_view, ← lines_view, h]

end Context

end ServiceDiagram

import ServiceDiagram.Proofs.Diagram.Lines
import ServiceDiagram.Proofs.Text.Upper

/-!
# The diagram tells what is drawn

Where texts have no line feeds, names and targets no blanks and multiplicities no quotes, the view can
be read off the diagram: the lines are told by the line feeds, the lines of each node by the empty lines
between them, and the nodes by their lines.

* `Drawn.View.Plain`   a view with texts as above;
* `Context.Plain`      a context with texts as above.
-/

namespace ServiceDiagram

open Text

namespace Drawn

/-! ### views -/

namespace View

structure Plain (v : View) : Prop where
  name_oneLine : OneLine v.name
  nodes : ∀ n ∈ v.nodes, n.Plain

variable {v w : View}

theorem toList_titleLine (v : View) :
    v.titleLine.toList =
      "title ".toList ++ (v.name.toList ++ ' ' :: '(' :: (v.framework.label.toList ++ [')'])) := by
  unfold titleLine
  simp only [String.toList_append, List.append_assoc]
  rfl

/-- the title is cut at its last bracket, since no framework has one in its label -/
theorem titleLine_inj (h : v.titleLine = w.titleLine) : v.name = w.name ∧ v.framework = w.framework := by
  have hbracket : ∀ f : Framework, '(' ∉ f.label.toList.reverse := by
    intro f
    cases f <;> decide
  have hlists := congrArg String.toList h
  rw [toList_titleLine, toList_titleLine] at hlists
  have hreverse := congrArg List.reverse (List.append_cancel_left hlists)
  simp only [List.reverse_append, List.reverse_cons, List.reverse_nil, List.nil_append,
    List.append_assoc, List.cons_append] at hreverse
  obtain ⟨hlabel, hname⟩ := cut_inj (hbracket v.framework) (hbracket w.framework)
    (List.cons.inj hreverse).2
  have hname := List.reverse_inj.mp (List.cons.inj hname).2
  have hlabel := String.toList_inj.mp (List.reverse_inj.mp hlabel)
  refine ⟨String.toList_inj.mp hname, ?_⟩
  rw [← Framework.ofLabel_label v.framework, hlabel, Framework.ofLabel_label]

theorem oneLine_of_lined (hname : OneLine v.name) (hnodes : ∀ n ∈ v.nodes, n.Lined) :
    ∀ l ∈ v.lines, OneLine l := by
  have htitle : OneLine v.titleLine :=
    ((((by decide : OneLine "title ").append hname).append (by decide)).append
      (by cases v.framework <;> decide)).append (by decide)
  intro l hl
  rcases List.mem_cons.mp hl with rfl | hl
  · decide
  · rcases List.mem_cons.mp hl with rfl | hl
    · exact htitle
    · rcases List.mem_append.mp hl with hl | hl
      · obtain ⟨n, hn, hl⟩ := List.mem_flatMap.mp hl
        rcases List.mem_cons.mp hl with rfl | hl
        · decide
        · exact Node.lines_oneLine (hnodes n hn) l hl
      · rw [List.mem_singleton.mp hl]
        decide

theorem lines_oneLine (hv : v.Plain) : ∀ l ∈ v.lines, OneLine l :=
  oneLine_of_lined hv.name_oneLine fun n hn => (hv.nodes n hn).lined

/-- **A view is told by its lines.** -/
theorem lines_inj (hv : v.Plain) (hw : w.Plain) (h : v.lines = w.lines) : v = w := by
  obtain ⟨htitle, hrest⟩ := List.cons.inj (List.cons.inj h).2
  obtain ⟨hname, hframework⟩ := titleLine_inj htitle
  have hlines := fenced_inj Node.lines (fun n _ => n.empty_not_mem_lines)
    (fun n _ => n.empty_not_mem_lines) (List.append_cancel_right hrest)
  have hnodes := map_inj_on
    (fun n hn m hm => Node.lines_inj (hv.nodes n hn) (hw.nodes m hm)) hlines
  exact View.ext hname hframework hnodes

end View

end Drawn

/-! ### contexts -/

def Association.texts (a : Association) : List String :=
  a.kind.label :: a.target ::
    (a.text.toList ++ (a.localMultiplicity.toList ++ a.remoteMultiplicity.toList))

def Service.texts (s : Service) : List String :=
  s.name :: (s.kind.toList ++ (s.stereotype.toList ++ s.associations.flatMap (·.texts)))

def Context.texts (c : Context) : List String := c.name :: c.services.flatMap (·.texts)

/-- **A context of plain texts**: none has a line feed, names of services and targets have no blank,
and multiplicities have no quote. -/
structure Context.Plain (c : Context) : Prop where
  oneLine : ∀ t ∈ c.texts, OneLine t
  names : ∀ s ∈ c.services, ' ' ∉ s.name.toList
  targets : ∀ s ∈ c.services, ∀ a ∈ s.associations, ' ' ∉ a.target.toList
  localEnds : ∀ s ∈ c.services, ∀ a ∈ s.associations, ∀ m, a.localMultiplicity = some m →
    '"' ∉ m.toList
  remoteEnds : ∀ s ∈ c.services, ∀ a ∈ s.associations, ∀ m, a.remoteMultiplicity = some m →
    '"' ∉ m.toList

theorem getD_of_forall {P : String → Prop} {o : Option String} (hempty : P "")
    (h : ∀ t, o = some t → P t) : P (o.getD "") := by
  cases o with
  | none => exact hempty
  | some t => exact h t rfl

theorem Association.edge_lined {a : Association} {e : Drawn.Edge}
    (htexts : ∀ t ∈ a.texts, OneLine t) (h : a.edge? = some e) : e.Lined := by
  simp only [texts, List.forall_mem_cons, List.forall_mem_append, Option.mem_toList] at htexts
  obtain ⟨-, htarget, htextLine, hlocalLine, hremoteLine⟩ := htexts
  have htext : OneLine (a.text.getD "") := getD_of_forall (by decide) htextLine
  have hends : ∀ m ∈ [a.localMultiplicity.getD "", a.remoteMultiplicity.getD ""], OneLine m :=
    List.forall_mem_cons.mpr ⟨getD_of_forall (by decide) hlocalLine,
      List.forall_mem_singleton.mpr (getD_of_forall (by decide) hremoteLine)⟩
  have hnone : ∀ m ∈ ([] : List String), OneLine m := List.forall_mem_nil _
  have hsome : ∀ t, some (a.text.getD "") = some t → OneLine t := fun _ ht => Option.some.inj ht ▸ htext
  unfold edge? at h
  cases hkind : a.kind <;> rw [hkind] at h <;> cases h
  case directed => exact ⟨htarget, hnone, hsome⟩
  case contains => exact ⟨htarget, hnone, nofun⟩
  case aggregation => exact ⟨htarget, hends, hsome⟩
  case implements => exact ⟨htarget, hnone, nofun⟩
  case inherits => exact ⟨htarget, hnone, nofun⟩

theorem Association.edge_plain {a : Association} {e : Drawn.Edge}
    (htexts : ∀ t ∈ a.texts, OneLine t) (htarget : ' ' ∉ a.target.toList)
    (hlocal : ∀ m, a.localMultiplicity = some m → '"' ∉ m.toList)
    (hremote : ∀ m, a.remoteMultiplicity = some m → '"' ∉ m.toList) (h : a.edge? = some e) :
    e.Plain := by
  have hlined := edge_lined htexts h
  have hquotes : ∀ m ∈ [a.localMultiplicity.getD "", a.remoteMultiplicity.getD ""], '"' ∉ m.toList :=
    List.forall_mem_cons.mpr ⟨getD_of_forall (P := ('"' ∉ ·.toList)) (by decide) hlocal,
      List.forall_mem_singleton.mpr (getD_of_forall (P := ('"' ∉ ·.toList)) (by decide) hremote)⟩
  have hnone : ∀ m ∈ ([] : List String), '"' ∉ m.toList := List.forall_mem_nil _
  have hparts : ' ' ∉ e.target.toList ∧ ∀ m ∈ e.multiplicities, '"' ∉ m.toList := by
    unfold edge? at h
    cases hkind : a.kind <;> rw [hkind] at h <;> cases h
    case aggregation => exact ⟨htarget, hquotes⟩
    all_goals exact ⟨htarget, hnone⟩
  exact ⟨hlined.target, hlined.multiplicities, hlined.text, hparts.1, hparts.2⟩

theorem Service.node_lined {s : Service} (htexts : ∀ t ∈ s.texts, OneLine t) : s.node.Lined := by
  simp only [texts, List.forall_mem_cons, List.forall_mem_append, Option.mem_toList] at htexts
  obtain ⟨hname, hkind, hstereotype, hassociations⟩ := htexts
  refine ⟨hname, ?_, hstereotype, fun e he => ?_⟩
  · show OneLine ((s.kind.map upper).getD "")
    refine getD_of_forall (by decide) fun t ht => ?_
    obtain ⟨kind, hk, rfl⟩ := Option.map_eq_some_iff.mp ht
    exact lineFeed_not_mem_upper (hkind kind hk)
  · obtain ⟨a, ha, hedge⟩ := List.mem_filterMap.mp he
    exact Association.edge_lined
      (fun t ht => hassociations t (List.mem_flatMap.mpr ⟨a, ha, ht⟩)) hedge

theorem Service.node_plain {s : Service} (htexts : ∀ t ∈ s.texts, OneLine t)
    (hname : ' ' ∉ s.name.toList) (hedges : ∀ e ∈ s.node.edges, e.Plain) : s.node.Plain := by
  have hlined := node_lined htexts
  exact ⟨hlined.name, hlined.upperKind, hlined.stereotype, hname, hedges⟩

theorem Context.texts_of_service {c : Context} {P : String → Prop} (h : ∀ t ∈ c.texts, P t) :
    ∀ s ∈ c.services, ∀ t ∈ s.texts, P t :=
  fun s hs t ht => h t (List.mem_cons_of_mem _ (List.mem_flatMap.mpr ⟨s, hs, ht⟩))

theorem Context.Plain.view {c : Context} (h : c.Plain) : c.view.Plain := by
  have hservice := texts_of_service h.oneLine
  refine ⟨h.oneLine c.name List.mem_cons_self, fun n hn => ?_⟩
  obtain ⟨s, hs, rfl⟩ := List.mem_map.mp hn
  refine Service.node_plain (hservice s hs) (h.names s hs) fun e he => ?_
  obtain ⟨a, ha, hedge⟩ := List.mem_filterMap.mp he
  refine Association.edge_plain (fun t ht => hservice s hs t ?_) (h.targets s hs a ha)
    (h.localEnds s hs a ha) (h.remoteEnds s hs a ha) hedge
  simp only [Service.texts, List.mem_cons, List.mem_append, List.mem_flatMap]
  exact Or.inr (Or.inr (Or.inr ⟨a, ha, ht⟩))

/-- **The diagram tells exactly what is drawn**: contexts with one view have one diagram, and plain
contexts with one diagram have one view. -/
theorem Context.diagram_tells_view (c d : Context) :
    (c.view = d.view → c.diagram = d.diagram) ∧
      (c.Plain → d.Plain → c.diagram = d.diagram → c.view = d.view) := by
  refine ⟨diagram_of_view, fun hc hd h => ?_⟩
  unfold diagram at h
  rw [← lines_view, ← lines_view] at h
  have hlines := unlines_inj (Drawn.View.lines_oneLine hc.view) (Drawn.View.lines_oneLine hd.view) h
  exact Drawn.View.lines_inj hc.view hd.view hlines

/-- a service called like a word of its class lines; a text that its kind does not use and a kind that
is not known do not show -/
theorem Context.diagram_tells_view_class :
    let c : Context := ⟨"Orders (new)", .rest,
      [⟨"class", some "entity", some "a b", [⟨.inherits, "Base", some "unused", none, none⟩,
        ⟨.other "uses", "Log", none, none, none⟩, ⟨.aggregation, "Item", none, some "1 to", none⟩]⟩]⟩
    let d : Context := ⟨"Orders (new)", .rest,
      [⟨"class", some "ENTITY", some "a b", [⟨.inherits, "Base", none, none, none⟩,
        ⟨.aggregation, "Item", some "", some "1 to", some ""⟩]⟩]⟩
    c.Plain ∧ d.Plain ∧ c.diagram = d.diagram ∧ c.view = d.view := by
  intro c d
  have hc : c.Plain := by
    refine ⟨by decide, by decide, by decide, ?_, ?_⟩ <;> simp [c]
  have hd : d.Plain := by
    refine ⟨by decide, by decide, by decide, ?_, ?_⟩ <;> simp [d]
  have hview : c.view = d.view := by decide +kernel
  have hdiagram : c.diagram = d.diagram := (diagram_tells_view c d).1 hview
  exact ⟨hc, hd, hdiagram, (diagram_tells_view c d).2 hc hd hdiagram⟩

end ServiceDiagram

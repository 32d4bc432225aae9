import ServiceDiagram.Proofs.Diagram.Drawn
import ServiceDiagram.Proofs.Text.Cuts

/-!
# Lines tell edges and nodes

The line of an edge tells the edge if its target has no blank and its multiplicities have no quote:
behind the name of the node stands the mark of the kind, and behind the mark the fields are cut at
blanks and quotes (`Edge.line_inj`).  The lines of a node tell the node (`Node.lines_inj`): its name is
in the header, and a class line is never the line of an edge, even if the node is called `class`
(`Node.line_ne_class`).

* `Edge.mark`, `Edge.fields`   the parts of a line behind the name of the node;
* `Edge.Lined`, `Node.Lined`   what has no line feeds;
* `Edge.Plain`, `Node.Plain`   what has no blanks or quotes in the wrong places either.
-/

namespace ServiceDiagram

open Text

namespace Drawn

/-- a word without blanks, and what is said of it -/
def labelled (word label : String) : List Char :=
  word.toList ++ ' ' :: ':' :: ' ' :: label.toList

theorem labelled_inj {word word' label label' : String} (hw : ' ' ∉ word.toList)
    (hw' : ' ' ∉ word'.toList) (h : labelled word label = labelled word' label') :
    word = word' ∧ label = label' := by
  obtain ⟨hword, hlabel⟩ := cut_inj hw hw' h
  have hlabel := (List.cons.inj (List.cons.inj hlabel).2).2
  exact ⟨String.toList_inj.mp hword, String.toList_inj.mp hlabel⟩

/-! ### edges -/

namespace Edge

def kind : Edge → AssociationKind
  | .directed .. => .directed
  | .contains .. => .contains
  | .aggregation .. => .aggregation
  | .implements .. => .implements
  | .inherits .. => .inherits

def target : Edge → String
  | .directed target _ => target
  | .contains target => target
  | .aggregation _ _ target _ => target
  | .implements target => target
  | .inherits target => target

def multiplicities : Edge → List String
  | .aggregation localEnd remoteEnd _ _ => [localEnd, remoteEnd]
  | _ => []

def text? : Edge → Option String
  | .directed _ text => some text
  | .aggregation _ _ _ text => some text
  | _ => none

/-- an edge whose fields can be told from its line -/
structure Plain (e : Edge) : Prop where
  target_oneLine : OneLine e.target
  multiplicities_oneLine : ∀ m ∈ e.multiplicities, OneLine m
  text_oneLine : ∀ t, e.text? = some t → OneLine t
  target : ' ' ∉ e.target.toList
  multiplicities : ∀ m ∈ e.multiplicities, '"' ∉ m.toList

structure Lined (e : Edge) : Prop where
  target : OneLine e.target
  multiplicities : ∀ m ∈ e.multiplicities, OneLine m
  text : ∀ t, e.text? = some t → OneLine t

theorem Plain.lined {e : Edge} (h : e.Plain) : e.Lined :=
  ⟨h.target_oneLine, h.multiplicities_oneLine, h.text_oneLine⟩

/-- what stands behind the name of the node and tells the kind of an edge -/
def mark : AssociationKind → List Char
  | .directed => ['-', 'r', '-', '>', ' ']
  | .contains => ['-', 'r', '-', '*', ' ']
  | .aggregation => ['"']
  | .implements => ['-', '-', '(', ')', ' ']
  | .inherits => ['-', '[', 'h', 'i', 'd', 'd', 'e', 'n', ']', 'r', '>', ' ']
  | .other _ => []

def between : List Char := [' ', '-', 'r', '-', 'o', ' ', '"']

def fields : Edge → List Char
  | .directed target text => labelled target text
  | .contains target => target.toList
  | .aggregation localEnd remoteEnd target text =>
    localEnd.toList ++ '"' :: (between ++ (remoteEnd.toList ++ '"' :: ' ' :: labelled target text))
  | .implements target => target.toList
  | .inherits target => target.toList

def tail (e : Edge) : List Char := mark e.kind ++ e.fields

theorem toList_line (name : String) (e : Edge) :
    (e.line name).toList = name.toList ++ ' ' :: e.tail := by
  unfold line
  split <;> simp only [String.toList_append, List.append_assoc] <;> rfl

def kindOf? : List Char → Option AssociationKind
  | '"' :: _ => some .aggregation
  | '-' :: '-' :: _ => some .implements
  | '-' :: '[' :: _ => some .inherits
  | '-' :: 'r' :: '-' :: '>' :: _ => some .directed
  | '-' :: 'r' :: '-' :: '*' :: _ => some .contains
  | _ => none

theorem kindOf?_tail (e : Edge) : kindOf? e.tail = some e.kind := by
  cases e <;> rfl

theorem fields_inj {e e' : Edge} (he : e.Plain) (he' : e'.Plain) (hkind : e.kind = e'.kind)
    (h : e.fields = e'.fields) : e = e' := by
  match e, e', hkind with
  | .directed _ _, .directed _ _, _ =>
    obtain ⟨rfl, rfl⟩ := labelled_inj he.target he'.target h
    rfl
  | .contains _, .contains _, _ => exact congrArg contains (String.toList_inj.mp h)
  | .aggregation l r t x, .aggregation l' r' t' x', _ =>
    have hl : ∀ m ∈ [l, r], '"' ∉ m.toList := he.multiplicities
    have hl' : ∀ m ∈ [l', r'], '"' ∉ m.toList := he'.multiplicities
    rw [List.forall_mem_cons, List.forall_mem_singleton] at hl hl'
    obtain ⟨hlocal, hrest⟩ := cut_inj hl.1 hl'.1 h
    obtain ⟨hremote, hrest⟩ := cut_inj hl.2 hl'.2 (List.append_cancel_left hrest)
    obtain ⟨htarget, htext⟩ : t = t' ∧ x = x' :=
      labelled_inj he.target he'.target (List.cons.inj hrest).2
    rw [String.toList_inj.mp hlocal, String.toList_inj.mp hremote, htarget, htext]
  | .implements _, .implements _, _ => exact congrArg implements (String.toList_inj.mp h)
  | .inherits _, .inherits _, _ => exact congrArg inherits (String.toList_inj.mp h)

/-- **An edge is told by its line.** -/
theorem line_inj {name : String} {e e' : Edge} (he : e.Plain) (he' : e'.Plain)
    (h : e.line name = e'.line name) : e = e' := by
  have htail : e.tail = e'.tail := by
    have hlists := congrArg String.toList h
    rw [toList_line, toList_line] at hlists
    exact (List.cons.inj (List.append_cancel_left hlists)).2
  have hkind : e.kind = e'.kind := by
    have hk := e.kindOf?_tail
    rw [htail, kindOf?_tail] at hk
    exact (Option.some.inj hk).symm
  unfold tail at htail
  rw [hkind] at htail
  exact fields_inj he he' hkind (List.append_cancel_left htail)

theorem line_oneLine {name : String} {e : Edge} (hname : OneLine name) (he : e.Lined) :
    OneLine (e.line name) := by
  have htarget := he.target
  cases e with
  | directed target text =>
    have htext := he.text text rfl
    exact (((hname.append (by decide)).append htarget).append (by decide)).append htext
  | contains target => exact (hname.append (by decide)).append htarget
  | aggregation localEnd remoteEnd target text =>
    have hlocal := he.multiplicities localEnd List.mem_cons_self
    have hremote := he.multiplicities remoteEnd (List.mem_cons_of_mem localEnd List.mem_cons_self)
    have htext := he.text text rfl
    exact ((((((((hname.append (by decide)).append hlocal).append (by decide)).append hremote).append
      (by decide)).append htarget).append (by decide)).append htext)
  | implements target => exact (hname.append (by decide)).append htarget
  | inherits target => exact (hname.append (by decide)).append htarget

end Edge

/-! ### nodes -/

namespace Node

/-- a node whose edges, name, kind and stereotype can be told from its lines -/
structure Plain (n : Node) : Prop where
  name_oneLine : OneLine n.name
  upperKind_oneLine : OneLine n.upperKind
  stereotype_oneLine : ∀ st, n.stereotype = some st → OneLine st
  name : ' ' ∉ n.name.toList
  edges : ∀ e ∈ n.edges, e.Plain

structure Lined (n : Node) : Prop where
  name : OneLine n.name
  upperKind : OneLine n.upperKind
  stereotype : ∀ st, n.stereotype = some st → OneLine st
  edges : ∀ e ∈ n.edges, e.Lined

theorem Plain.lined {n : Node} (h : n.Plain) : n.Lined :=
  ⟨h.name_oneLine, h.upperKind_oneLine, h.stereotype_oneLine, fun e he => (h.edges e he).lined⟩

def classWord : List Char := ['c', 'l', 'a', 's', 's']

/-- the front of a class line: the word and the name of the node -/
def classFront (name : String) : List Char := classWord ++ ' ' :: (name.toList ++ [' '])

/-- **A line of an edge is no class line**, whatever the name of its node is: behind the name stands a
mark, and no mark begins with a letter. -/
theorem line_ne_class {name : String} (hname : ' ' ∉ name.toList) (e : Edge) (rest : List Char) :
    (e.line name).toList ≠ classFront name ++ rest := by
  intro h
  rw [Edge.toList_line, classFront, List.append_assoc] at h
  obtain ⟨hclass, htail⟩ := cut_inj hname (by decide) h
  have hkind := e.kindOf?_tail
  rw [htail, hclass] at hkind
  cases hkind

theorem toList_headerLine (n : Node) :
    n.headerLine.toList = '\'' :: ' ' :: labelled n.name n.upperKind := by
  unfold headerLine
  simp only [String.toList_append, List.append_assoc]
  rfl

theorem toList_stereotypeLine {n : Node} {l : String} (h : n.stereotypeLine? = some l) :
    ∃ st, n.stereotype = some st ∧
      l.toList = classFront n.name ++ ('<' :: '<' :: ' ' :: (st.toList ++ [' ', '>', '>'])) := by
  obtain ⟨st, hst, rfl⟩ := Option.map_eq_some_iff.mp h
  refine ⟨st, hst, ?_⟩
  simp only [String.toList_append, List.append_assoc, List.cons_append, classFront]
  rfl

theorem toList_inheritsLine {n : Node} {l : String} (h : n.inheritsLine? = some l) :
    ∃ rest, l.toList = classFront n.name ++ 'e' :: rest := by
  unfold inheritsLine? at h
  split at h
  · cases h
  · cases h
    refine ⟨"xtends ".toList ++ (", ".intercalate n.parents).toList, ?_⟩
    simp only [String.toList_append, List.append_assoc, List.cons_append, classFront]
    rfl

section
variable {n m : Node} {l : String}

theorem not_mem_edgeLines {rest : List Char} (hm : m.Plain) (hl : l.toList = classFront m.name ++ rest) :
    l ∉ m.edgeLines := by
  intro hmem
  obtain ⟨e, -, rfl⟩ := List.mem_map.mp hmem
  exact line_ne_class hm.name e rest hl

/-- the line of a stereotype is told from the lines behind it -/
theorem stereotypeLine_not_mem (hname : n.name = m.name) (hm : m.Plain)
    (h : n.stereotypeLine? = some l) : l ∉ m.inheritsLine?.toList ++ m.edgeLines := by
  obtain ⟨st, -, hl⟩ := toList_stereotypeLine h
  rw [hname] at hl
  rw [List.mem_append, not_or]
  refine ⟨fun hmem => ?_, not_mem_edgeLines hm hl⟩
  obtain ⟨rest, hrest⟩ := toList_inheritsLine (Option.mem_toList.mp hmem)
  rw [hl] at hrest
  have hletter : '<' = 'e' := (List.cons.inj (List.append_cancel_left hrest)).1
  exact absurd hletter (by decide)

theorem inheritsLine_not_mem (hname : n.name = m.name) (hm : m.Plain)
    (h : n.inheritsLine? = some l) : l ∉ m.edgeLines := by
  obtain ⟨rest, hl⟩ := toList_inheritsLine h
  rw [hname] at hl
  exact not_mem_edgeLines hm hl

theorem headerLine_inj (hn : n.Plain) (hm : m.Plain) (h : n.headerLine = m.headerLine) :
    n.name = m.name ∧ n.upperKind = m.upperKind := by
  have hlists := congrArg String.toList h
  rw [toList_headerLine, toList_headerLine] at hlists
  exact labelled_inj hn.name hm.name (List.cons.inj (List.cons.inj hlists).2).2

theorem stereotype_inj (hname : n.name = m.name) (h : n.stereotypeLine? = m.stereotypeLine?) :
    n.stereotype = m.stereotype := by
  cases hn : n.stereotypeLine? with
  | none =>
    rw [hn] at h
    rw [Option.map_eq_none_iff.mp hn, Option.map_eq_none_iff.mp h.symm]
  | some l =>
    rw [hn] at h
    obtain ⟨st, hst, hl⟩ := toList_stereotypeLine hn
    obtain ⟨st', hst', hl'⟩ := toList_stereotypeLine h.symm
    rw [hl, hname] at hl'
    have hrest : st.toList ++ [' ', '>', '>'] = st'.toList ++ [' ', '>', '>'] :=
      (List.cons.inj (List.cons.inj (List.cons.inj (List.append_cancel_left hl')).2).2).2
    rw [hst, hst', String.toList_inj.mp (List.append_cancel_right hrest)]

/-- **A node is told by its lines.** -/
theorem lines_inj (hn : n.Plain) (hm : m.Plain) (h : n.lines = m.lines) : n = m := by
  obtain ⟨hheader, hrest⟩ := List.cons.inj h
  obtain ⟨hname, hkind⟩ := headerLine_inj hn hm hheader
  obtain ⟨hstereotype, hrest⟩ := front_inj (fun _ => stereotypeLine_not_mem hname hm)
    (fun _ => stereotypeLine_not_mem hname.symm hn) hrest
  obtain ⟨-, hlines⟩ := front_inj (fun _ => inheritsLine_not_mem hname hm)
    (fun _ => inheritsLine_not_mem hname.symm hn) hrest
  have hedges : n.edges = m.edges := by
    have hmap : n.edges.map (·.line n.name) = m.edges.map (·.line m.name) := hlines
    rw [← hname] at hmap
    exact map_inj_on (fun e he e' he' => Edge.line_inj (hn.edges e he) (hm.edges e' he')) hmap
  exact Node.ext hname hkind (stereotype_inj hname hstereotype) hedges

/-! ### the lines of a node -/

theorem headerLine_oneLine (hn : n.Lined) : OneLine n.headerLine :=
  (((by decide : OneLine "' ").append hn.name).append (by decide)).append hn.upperKind

theorem stereotypeLine_oneLine (hn : n.Lined) (h : n.stereotypeLine? = some l) : OneLine l := by
  obtain ⟨st, hst, rfl⟩ := Option.map_eq_some_iff.mp h
  have hst := hn.stereotype st hst
  exact ((((by decide : OneLine "class ").append hn.name).append (by decide)).append hst).append
    (by decide)

theorem inheritsLine_oneLine (hn : n.Lined) (h : n.inheritsLine? = some l) : OneLine l := by
  unfold inheritsLine? at h
  split at h
  · cases h
  · cases h
    refine (((by decide : OneLine "class ").append hn.name).append (by decide)).append
      (oneLine_intercalate (by decide) fun p hp => ?_)
    obtain ⟨e, he, hep⟩ := List.mem_filterMap.mp hp
    have htarget := (hn.edges e he).target
    cases e with
    | inherits target =>
      cases hep
      exact htarget
    | _ => cases hep

theorem forall_mem_lines {P : String → Prop} (hheader : P n.headerLine)
    (hstereotype : ∀ l, n.stereotypeLine? = some l → P l)
    (hinherits : ∀ l, n.inheritsLine? = some l → P l) (hedges : ∀ e ∈ n.edges, P (e.line n.name)) :
    ∀ l ∈ n.lines, P l := by
  intro l hl
  rcases List.mem_cons.mp hl with rfl | hl
  · exact hheader
  · rcases List.mem_append.mp hl with hl | hl
    · exact hstereotype l (Option.mem_toList.mp hl)
    · rcases List.mem_append.mp hl with hl | hl
      · exact hinherits l (Option.mem_toList.mp hl)
      · obtain ⟨e, he, rfl⟩ := List.mem_map.mp hl
        exact hedges e he

theorem lines_oneLine (hn : n.Lined) : ∀ l ∈ n.lines, OneLine l :=
  forall_mem_lines (headerLine_oneLine hn) (fun _ => stereotypeLine_oneLine hn)
    (fun _ => inheritsLine_oneLine hn) fun e he => Edge.line_oneLine hn.name (hn.edges e he)

/-- every line of a node has a blank, so it is neither empty nor a word -/
theorem blank_mem_lines (n : Node) : ∀ l ∈ n.lines, ' ' ∈ l.toList := by
  refine forall_mem_lines ?_ (fun l hl => ?_) (fun l hl => ?_) fun e _ => ?_
  · rw [toList_headerLine]
    exact List.mem_cons_of_mem _ List.mem_cons_self
  · obtain ⟨st, -, h⟩ := toList_stereotypeLine hl
    rw [h]
    simp [classFront]
  · obtain ⟨rest, h⟩ := toList_inheritsLine hl
    rw [h]
    simp [classFront]
  · rw [Edge.toList_line]
    exact List.mem_append_right _ List.mem_cons_self

theorem empty_not_mem_lines (n : Node) : "" ∉ n.lines :=
  fun h => absurd (n.blank_mem_lines "" h) List.not_mem_nil

end

end Node

end Drawn

end ServiceDiagram

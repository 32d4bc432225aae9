import ServiceDiagram.Document.Writer
import ServiceDiagram.Proofs.Document.Schema
import ServiceDiagram.Proofs.Json.Invariants
import ServiceDiagram.Proofs.Json.Written
import ServiceDiagram.Proofs.Model.Canonical

/-!
# Reading undoes writing

What is written of a context spells the value `contextValue`, which stands for the context if its
kinds are canonical; so the document is read as the context (`read_write`).  All contexts that are
read are canonical (`canonical_of_read`).  -/

namespace ServiceDiagram.Document

open Json

/-! ### the values that are written -/

abbrev Written := String × Value × List Char

def textWritten (key : String) (s : String) : Written := (key, .string s, writeText s)

def optionalWritten (key : String) (o : Option String) : List Written :=
  (o.map (textWritten key)).toList

def associationWritten (a : Association) : List Written :=
  [textWritten "associationType" a.kind.label, textWritten "type" a.target] ++
    optionalWritten "text" a.text ++
    optionalWritten "localMultiplicity" a.localMultiplicity ++
    optionalWritten "remoteMultiplicity" a.remoteMultiplicity

def objectOf (members : List Written) : Value := .object (members.map fun m => (m.1, m.2.1))

def associationValue (a : Association) : Value := objectOf (associationWritten a)

def serviceWritten (s : Service) : List Written :=
  [textWritten "serviceName" s.name] ++
    optionalWritten "type" s.kind ++
    optionalWritten "stereotype" s.stereotype ++
    if s.associations.isEmpty then []
    else [("associations", .array (s.associations.map associationValue),
      writeList (s.associations.map writeAssociation))]

def serviceValue (s : Service) : Value := objectOf (serviceWritten s)

def contextWritten (c : Context) : List Written :=
  [textWritten "serviceContextName" c.name,
    textWritten "serviceContextFramework" c.framework.label,
    ("services", .array (c.services.map serviceValue), writeList (c.services.map writeService))]

def contextValue (c : Context) : Value := objectOf (contextWritten c)

/-! ### what is written spells them -/

def texts (members : List Written) : List (List Char) := members.map fun m => writeMember m.1 m.2.2

theorem texts_append (ms ns : List Written) : texts (ms ++ ns) = texts ms ++ texts ns :=
  List.map_append

theorem texts_optional (key : String) (o : Option String) :
    texts (optionalWritten key o) = optionalMember key o := by
  cases o <;> rfl

def AreSpelt (members : List Written) : Prop := ∀ m ∈ members, Spells m.2.1 m.2.2

theorem areSpelt_append {ms ns : List Written} (hm : AreSpelt ms) (hn : AreSpelt ns) :
    AreSpelt (ms ++ ns) := by
  intro m h
  rcases List.mem_append.mp h with h | h
  · exact hm m h
  · exact hn m h

theorem areSpelt_text (key s : String) : AreSpelt [textWritten key s] := by
  intro m hm
  rw [List.mem_singleton.mp hm]
  exact spells_writeText s

theorem areSpelt_optional (key : String) (o : Option String) :
    AreSpelt (optionalWritten key o) := by
  cases o with
  | none => exact fun m hm => absurd hm List.not_mem_nil
  | some s => exact areSpelt_text key s

theorem areSpelt_list {α : Type} (key : String) {xs : List α} {value : α → Value}
    {write : α → List Char} (h : ∀ x, Spells (value x) (write x)) :
    AreSpelt [(key, .array (xs.map value), writeList (xs.map write))] := by
  intro m hm
  rw [List.mem_singleton.mp hm]
  have hxs : ∀ p ∈ xs.map fun x => (value x, write x), Spells p.1 p.2 := by
    intro p hp
    obtain ⟨x, -, rfl⟩ := List.mem_map.mp hp
    exact h x
  have h' := spells_writeList hxs
  rw [List.map_map, List.map_map] at h'
  exact h'

theorem spells_association (a : Association) :
    Spells (associationValue a) (writeAssociation a) := by
  have h : AreSpelt (associationWritten a) :=
    areSpelt_append (areSpelt_append (areSpelt_append
      (areSpelt_append (areSpelt_text _ _) (areSpelt_text _ _)) (areSpelt_optional _ _))
      (areSpelt_optional _ _)) (areSpelt_optional _ _)
  have e : writeAssociation a = writeObject (texts (associationWritten a)) := by
    unfold writeAssociation associationWritten
    rw [texts_append, texts_append, texts_append, texts_optional, texts_optional, texts_optional]
    rfl
  rw [e]
  exact spells_writeObject h

theorem spells_service (s : Service) : Spells (serviceValue s) (writeService s) := by
  have h : AreSpelt (serviceWritten s) := by
    refine areSpelt_append (areSpelt_append (areSpelt_append (areSpelt_text _ _)
      (areSpelt_optional _ _)) (areSpelt_optional _ _)) ?_
    split
    · exact fun m hm => absurd hm List.not_mem_nil
    · exact areSpelt_list _ spells_association
  have e : writeService s = writeObject (texts (serviceWritten s)) := by
    unfold writeService serviceWritten
    rw [texts_append, texts_append, texts_append, texts_optional, texts_optional]
    split <;> rfl
  rw [e]
  exact spells_writeObject h

theorem spells_context (c : Context) : Spells (contextValue c) (writeContext c) := by
  have h : AreSpelt (contextWritten c) :=
    areSpelt_append (areSpelt_append (areSpelt_text _ _) (areSpelt_text _ _))
      (areSpelt_list _ spells_service)
  exact spells_writeObject h

/-! ### they stand for what they are written of -/

theorem association?_value {a : Association} (h : a.kind.Canonical) :
    association? (associationValue a) = some a := by
  obtain ⟨kind, target, text, localEnd, remoteEnd⟩ := a
  have hk : AssociationKind.ofLabel kind.label = kind :=
    AssociationKind.ofLabel_label_of_canonical h
  cases text <;> cases localEnd <;> cases remoteEnd <;>
    simp [association?, associationValue, objectOf, associationWritten, textWritten,
      optionalWritten, Value.fields?, associationOf?, field?, kind?, Value.text?,
      Value.optional?, hk, List.lookup_cons]

theorem list?_map {α : Type} {value : α → Value} {decode : Value → Option α} {xs : List α}
    (h : ∀ x ∈ xs, decode (value x) = some x) :
    (Value.array (xs.map value)).list? decode = some xs := by
  show (xs.map value).mapM decode = some xs
  induction xs with
  | nil => rfl
  | cons x xs ih =>
    rw [List.map_cons, List.mapM_cons, h x List.mem_cons_self,
      ih fun y hy => h y (List.mem_cons_of_mem x hy)]
    rfl

theorem service?_value {s : Service} (h : s.Canonical) : service? (serviceValue s) = some s := by
  have hl := list?_map fun a ha => association?_value (h a ha)
  obtain ⟨name, kind, stereotype, associations⟩ := s
  cases kind <;> cases stereotype <;> cases associations <;>
    simp [service?, serviceValue, objectOf, serviceWritten, textWritten, optionalWritten,
      Value.fields?, serviceOf?, field?, Value.text?, Value.optional?, List.lookup_cons] at hl ⊢
  all_goals
    rw [hl]
    rfl

theorem context?_value {c : Context} (h : c.Canonical) : context? (contextValue c) = some c := by
  have hl := list?_map fun s hs => service?_value (h s hs)
  have hf : Framework.ofLabel c.framework.label = c.framework := Framework.ofLabel_label c.framework
  simp [context?, contextValue, objectOf, contextWritten, textWritten, Value.fields?, contextOf?,
    field?, framework?, Value.text?, List.lookup_cons, hl, hf]

/-- **A document is read as the context that was written.** -/
theorem read_write {c : Context} (h : c.Canonical) : read (write c) = .ok c := by
  have ht : IsText (contextValue c) (text c).toList := by
    refine ⟨[], writeContext c, [], ?_, areBlanks_nil, areBlanks_nil, spells_context c⟩
    rw [text, String.toList_ofList, List.append_nil]
    rfl
  have key := (read_isText ht).trans (context?_value h)
  show read (Text.encode (text c)) = .ok c
  cases hr : read (Text.encode (text c)) with
  | error e => rw [hr] at key; cases key
  | ok d =>
    rw [hr] at key
    cases key
    rfl

/-! ### what is read is canonical -/

theorem gives_association : Gives (readRecord associationShape) fun a => a.kind.Canonical := by
  refine gives_record (AssociationKind.canonical_ofLabel "") ?_
  intro field hf a ha
  simp only [associationShape, List.mem_cons, List.not_mem_nil, or_false] at hf
  rcases hf with rfl | rfl | rfl | rfl | rfl
  · exact Field.gives_text fun s => AssociationKind.canonical_ofLabel s
  · exact Field.gives_text fun _ => ha
  · exact Field.gives_optional fun _ => ha
  · exact Field.gives_optional fun _ => ha
  · exact Field.gives_optional fun _ => ha

theorem gives_service : Gives (readRecord serviceShape) Service.Canonical := by
  refine gives_record (fun a ha => absurd ha List.not_mem_nil) ?_
  intro field hf s hs
  simp only [serviceShape, List.mem_cons, List.not_mem_nil, or_false] at hf
  rcases hf with rfl | rfl | rfl | rfl
  · exact Field.gives_text fun _ => hs
  · exact Field.gives_optional fun _ => hs
  · exact Field.gives_optional fun _ => hs
  · exact Field.gives_list gives_association fun _ has => has

/-- **Every context that is read is canonical.** -/
theorem canonical_of_read {bs : Bytes} {c : Context} (h : read bs = .ok c) : c.Canonical := by
  refine gives_whole (fun s hs => absurd hs List.not_mem_nil) ?_ h
  intro field hf c hc
  simp only [contextShape, List.mem_cons, List.not_mem_nil, or_false] at hf
  rcases hf with rfl | rfl | rfl
  · exact Field.gives_text fun _ => hc
  · exact Field.gives_text fun _ => hc
  · exact Field.gives_list gives_service fun _ hss => hss

end ServiceDiagram.Document

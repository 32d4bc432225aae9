import ServiceDiagram.Proofs.Model.Typed
import ServiceDiagram.Proofs.Session.Steps

/-!
# Sessions with typed answers

A turn whose answers were typed keeps the context typed, one lemma for each answer that leads to an
edit, and `afterAnswer_typed` for all.  What is asked for is trimmed once more before it becomes a
target, a stereotype or a type; the rest is taken as it was typed, or by default.

* `Point.Typed`   the parts of an association that are at hand were typed;
* `Typed step`    where the turn stands, the context and the point are typed.
-/

namespace ServiceDiagram.Session

open Text

def Point.Typed : Point → Prop
  | .target _ k => k ∈ AssociationKind.known
  | .label _ a => a.Typed
  | .localEnd _ a => a.Typed
  | .remoteEnd _ a m => a.Typed ∧ OneLine m
  | _ => True

theorem Point.Idle.typed {p : Point} (h : p.Idle) : p.Typed := by
  cases p with
  | target name kind => exact False.elim h
  | label name a => exact False.elim h
  | localEnd name a => exact False.elim h
  | remoteEnd name a localEnd => exact False.elim h
  | _ => trivial

/-- **Where a turn stands, everything was typed.** -/
inductive Typed : Step Turn Result → Prop
  | ends {r : Result} (h : r.editor.context.Typed) : Typed (.done r)
  | next {t : Turn} (h : t.editor.context.Typed) (hp : t.point.Typed) : Typed (.next t)

variable {c : Context} {e : Editor} {step : Step Turn Result}

theorem Stays.typed (h : Stays c step) (hc : c.Typed) : Typed step := by
  cases h with
  | ends he => exact .ends (he ▸ hc)
  | asks he hp => exact .next (he ▸ hc) hp.typed

/-! ### texts -/

theorem nonBlank_word {s t : String} (hs : OneLine s) (h : nonBlank s = some t) : Word t := by
  unfold nonBlank at h
  simp only at h
  split at h
  · cases h
  · next hne =>
    cases h
    exact ⟨hs.trim, trimmed_trim s, fun he => hne (String.isEmpty_iff.mpr he)⟩

theorem currentField_oneLine (h : e.context.Typed) (name : String) {field : Service → Option String}
    (hfield : ∀ s : Service, s.Typed → ∀ t, field s = some t → OneLine t) :
    OneLine (currentField e name field) := by
  unfold currentField
  cases hf : (e.context.find? name).bind field with
  | none => exact List.not_mem_nil
  | some t =>
    obtain ⟨s, hs, ht⟩ := Option.bind_eq_some_iff.mp hf
    exact hfield s (h.services s (List.mem_of_find?_eq_some hs)) t ht

/-! ### edits -/

theorem goTo_typed {p : Point} (h : e.context.Typed) (hp : p.Typed) : Typed (goTo e p) := .next h hp

theorem afterEdit_typed (h : e.context.Typed) (name : String) {f : Service → Service}
    (hname : ∀ s, (f s).name = s.name) (hf : ∀ s : Service, s.Typed → (f s).Typed) :
    Typed (afterEdit name (e.edit name f)) := by
  rcases e.edit_cases name f with ⟨c, hc, he⟩ | he
  · rw [he]
    exact goTo_typed (h.change hc hname hf) trivial
  · rw [he]
    exact goTo_typed h trivial

theorem addService_typed (h : e.context.Typed) {name : String} (hname : Word name) :
    Typed (goTo (e.addService name).2 .saveNew) := by
  refine goTo_typed ?_ trivial
  unfold Editor.addService
  split
  · next c hc =>
    rw [Editor.context_returnToMain]
    exact h.add hname hc
  · rw [Editor.context_returnToMain]
    exact h

theorem setStereotype_typed (h : e.context.Typed) (name : String) {value : Option String}
    (hv : ∀ st, value = some st → OneLine st) : Typed (afterEdit name (e.setStereotype name value)) :=
  afterEdit_typed h name (fun _ => rfl) fun _ hs => ⟨hs.name, hs.kind, hv, hs.associations⟩

theorem setKind_typed (h : e.context.Typed) (name : String) {value : Option String}
    (hv : ∀ k, value = some k → OneLine k) : Typed (afterEdit name (e.setKind name value)) :=
  afterEdit_typed h name (fun _ => rfl) fun _ hs => ⟨hs.name, hv, hs.stereotype, hs.associations⟩

theorem addAssociation_typed (h : e.context.Typed) (name : String) {a : Association} (ha : a.Typed) :
    Typed (afterEdit name (e.addAssociation name a)) :=
  afterEdit_typed h name (fun _ => rfl) fun _ hs => hs.associate ha

/-! ### associations -/

theorem afterAssociationKind_typed (h : e.context.Typed) (name : String) (choice : Nat) :
    Typed (afterAssociationKind e name choice) := by
  unfold afterAssociationKind
  split
  · next kind hk => exact goTo_typed h (List.mem_of_getElem? hk)
  · exact goTo_typed h trivial

theorem afterTarget_typed (h : e.context.Typed) (name : String) {kind : AssociationKind}
    (hk : kind ∈ AssociationKind.known) {answer : String} (ha : OneLine answer) :
    Typed (afterTarget e name kind answer) := by
  unfold afterTarget
  split
  · exact goTo_typed h trivial
  · next target ht =>
    have hnew := Association.typed_new hk (nonBlank_word ha ht)
    simp only
    split
    · exact goTo_typed h hnew
    · split
      · exact goTo_typed h hnew
      · exact addAssociation_typed h name hnew

theorem afterLabel_typed (h : e.context.Typed) (name : String) {a : Association} (ha : a.Typed)
    {answer : String} (hanswer : OneLine answer) : Typed (afterLabel e name a answer) := by
  have hlabelled : { a with text := some answer }.Typed :=
    { ha with text := fun t ht => Option.some.inj ht ▸ hanswer }
  unfold afterLabel
  simp only
  split
  · exact goTo_typed h hlabelled
  · exact addAssociation_typed h name hlabelled

theorem afterRemote_typed (h : e.context.Typed) (name : String) {a : Association} (ha : a.Typed)
    {localEnd remoteEnd : String} (hlocal : OneLine localEnd) (hremote : OneLine remoteEnd) :
    Typed (afterRemote e name a localEnd remoteEnd) :=
  addAssociation_typed h name
    { ha with
      localEnd := fun _ hm => Option.some.inj hm ▸ hlocal
      remoteEnd := fun _ hm => Option.some.inj hm ▸ hremote }

/-! ### all answers -/

theorem oneLine_empty : OneLine "" := List.not_mem_nil

theorem word_defaultServiceName : Word defaultServiceName := ⟨by decide, by decide, by decide⟩

/-- **A typed answer keeps everything typed.** -/
theorem afterAnswer_typed (file : String) (h : e.context.Typed) {p : Point} (hp : p.Typed)
    {answer : (Turn.request file ⟨e, p⟩).Answer} (ha : (Turn.request file ⟨e, p⟩).Typed answer) :
    Typed (afterAnswer file e p answer) := by
  cases p with
  | menu => exact (afterMenu_stays e answer).typed h
  | help => exact (proceed_stays e).typed h
  | recovery => exact (returnToMain_stays e).typed h
  | listing => exact (returnToMain_stays e).typed h
  | noServices => exact (returnToMain_stays e).typed h
  | newName =>
    refine addService_typed h ?_
    rcases ha with rfl | ha
    · exact word_defaultServiceName
    · exact ha
  | saveNew => exact (proceed_stays e).typed h
  | service => exact (afterService_stays e answer).typed h
  | action name => exact (afterAction_stays e name answer).typed h
  | stereotype name =>
    have hcurrent := currentField_oneLine h name fun _ hs => hs.stereotype
    have hanswer : OneLine answer := ha.oneLine hcurrent
    exact setStereotype_typed h name fun _ hst => (nonBlank_word hanswer hst).oneLine
  | kind name =>
    have hcurrent := currentField_oneLine h name fun _ hs => hs.kind
    have hanswer : OneLine answer := ha.oneLine hcurrent
    exact setKind_typed h name fun _ hk => (nonBlank_word hanswer hk).oneLine
  | associationKind name => exact afterAssociationKind_typed h name answer
  | target name kind =>
    show Typed (afterTarget e name kind answer)
    exact afterTarget_typed h name hp (ha.oneLine oneLine_empty)
  | noTarget name => exact goTo_typed h trivial
  | label name a => exact afterLabel_typed h name hp (ha.oneLine oneLine_empty)
  | localEnd name a => exact goTo_typed h ⟨hp, ha.oneLine (by decide)⟩
  | remoteEnd name a localEnd =>
    exact afterRemote_typed h name hp.1 hp.2 (ha.oneLine (by decide))
  | saveEdit name => exact goTo_typed h trivial

end ServiceDiagram.Session

import ServiceDiagram.Document.Reader
import ServiceDiagram.Proofs.Json.Records

/-!
# The schema of a document

What a document means, said about the value of its text and not about its bytes: `context?` is the
context that a value stands for, `none` if it stands for none.  An association, a service and a
context are each an object or an array of fields (`Value.fields?`), and a field that is missing has
a default, but for the name of a service.

`Document.read` reads every text of a value as `context?` has it (`read_isText`).
-/

namespace ServiceDiagram.Document

open Json

/-- a field decoded, or what stands for it when it is missing -/
def field? {β : Type} (f : Known) (key : String) (decode : Value → Option β) (missing : Option β) :
    Option β :=
  match f key with
  | some v => decode v
  | none => missing

def kind? (v : Value) : Option AssociationKind := v.text?.map .ofLabel

def framework? (v : Value) : Option Framework := v.text?.map .ofLabel

def associationOf? (f : Known) : Option Association := do
  let kind ← field? f "associationType" kind? (some (.other ""))
  let target ← field? f "type" Value.text? (some "")
  let text ← field? f "text" Value.optional? (some none)
  let localMultiplicity ← field? f "localMultiplicity" Value.optional? (some none)
  let remoteMultiplicity ← field? f "remoteMultiplicity" Value.optional? (some none)
  return ⟨kind, target, text, localMultiplicity, remoteMultiplicity⟩

/-- **The association that a value stands for.** -/
def association? (v : Value) : Option Association :=
  (v.fields? ["associationType", "type", "text", "localMultiplicity", "remoteMultiplicity"]).bind
    associationOf?

/-- the service with these fields; `unnamed` is its name if none is given -/
def serviceOf? (unnamed : Option String) (f : Known) : Option Service := do
  let name ← field? f "serviceName" Value.text? unnamed
  let kind ← field? f "type" Value.optional? (some none)
  let stereotype ← field? f "stereotype" Value.optional? (some none)
  let associations ← field? f "associations" (Value.list? association?) (some [])
  return ⟨name, kind, stereotype, associations⟩

/-- **The service that a value stands for.**  Its name must be given. -/
def service? (v : Value) : Option Service :=
  (v.fields? ["serviceName", "type", "stereotype", "associations"]).bind (serviceOf? none)

def contextOf? (f : Known) : Option Context := do
  let name ← field? f "serviceContextName" Value.text? (some "default")
  let framework ← field? f "serviceContextFramework" framework? (some .grpc)
  let services ← field? f "services" (Value.list? service?) (some [])
  return ⟨name, framework, services⟩

/-- **The context that a value stands for.** -/
def context? (v : Value) : Option Context :=
  (v.fields? ["serviceContextName", "serviceContextFramework", "services"]).bind contextOf?

/-! ### one field -/

section
variable {β : Type} {f g : Known} {key : String} {decode : Value → Option β} {missing : Option β}

theorem field?_add_self (v : Value) : field? (f.add key v) key decode missing = decode v := by
  rw [field?, Known.add_self]

theorem field?_add_of_ne {other : String} (h : key ≠ other) (v : Value) :
    field? (f.add other v) key decode missing = field? f key decode missing := by
  rw [field?, Known.add_of_ne h]
  rfl

theorem field?_congr (h : f key = g key) :
    field? f key decode missing = field? g key decode missing := by
  rw [field?, h]
  rfl

theorem field?_within {x d : β} (h : f.Within g) (hx : field? g key decode (some d) = some x) :
    ∃ y, field? f key decode (some d) = some y := by
  unfold field? at hx ⊢
  cases hf : f key with
  | none => exact ⟨d, rfl⟩
  | some v =>
    rw [h key v hf] at hx
    exact ⟨x, hx⟩

end

/-! ### associations -/

theorem associationOf?_eq_some {f : Known} {a : Association} :
    associationOf? f = some a ↔
      field? f "associationType" kind? (some (.other "")) = some a.kind ∧
      field? f "type" Value.text? (some "") = some a.target ∧
      field? f "text" Value.optional? (some none) = some a.text ∧
      field? f "localMultiplicity" Value.optional? (some none) = some a.localMultiplicity ∧
      field? f "remoteMultiplicity" Value.optional? (some none) = some a.remoteMultiplicity := by
  unfold associationOf?
  constructor
  · intro h
    simp only [bind, pure, Option.bind_eq_some_iff, Option.some.injEq] at h
    obtain ⟨_, h₁, _, h₂, _, h₃, _, h₄, _, h₅, rfl⟩ := h
    exact ⟨h₁, h₂, h₃, h₄, h₅⟩
  · rintro ⟨h₁, h₂, h₃, h₄, h₅⟩
    rw [h₁, h₂, h₃, h₄, h₅]
    rfl

theorem assembles_association : Assembles associationShape associationOf? where
  distinct := by decide
  start := rfl
  place := by
    intro field hf f a ha _
    obtain ⟨h₁, h₂, h₃, h₄, h₅⟩ := associationOf?_eq_some.mp ha
    simp only [associationShape, List.mem_cons, List.not_mem_nil, or_false] at hf
    rcases hf with rfl | rfl | rfl | rfl | rfl
    · refine Field.reads_text fun v => ?_
      simp (disch := decide) only [associationOf?, Field.text, field?_add_self, field?_add_of_ne,
        h₂, h₃, h₄, h₅]
      unfold kind?
      cases v.text? <;> rfl
    · refine Field.reads_text fun v => ?_
      simp (disch := decide) only [associationOf?, Field.text, field?_add_self, field?_add_of_ne,
        h₁, h₃, h₄, h₅]
      cases v.text? <;> rfl
    · refine Field.reads_optional fun v => ?_
      simp (disch := decide) only [associationOf?, Field.optional, field?_add_self,
        field?_add_of_ne, h₁, h₂, h₄, h₅]
      cases v.optional? <;> rfl
    · refine Field.reads_optional fun v => ?_
      simp (disch := decide) only [associationOf?, Field.optional, field?_add_self,
        field?_add_of_ne, h₁, h₂, h₃, h₅]
      cases v.optional? <;> rfl
    · refine Field.reads_optional fun v => ?_
      simp (disch := decide) only [associationOf?, Field.optional, field?_add_self,
        field?_add_of_ne, h₁, h₂, h₃, h₄]
      cases v.optional? <;> rfl
  grows := by
    intro f g hfg hn
    cases hg : associationOf? g with
    | none => rfl
    | some a =>
      obtain ⟨h₁, h₂, h₃, h₄, h₅⟩ := associationOf?_eq_some.mp hg
      obtain ⟨_, h₁⟩ := field?_within hfg h₁
      obtain ⟨_, h₂⟩ := field?_within hfg h₂
      obtain ⟨_, h₃⟩ := field?_within hfg h₃
      obtain ⟨_, h₄⟩ := field?_within hfg h₄
      obtain ⟨_, h₅⟩ := field?_within hfg h₅
      rw [associationOf?, h₁, h₂, h₃, h₄, h₅] at hn
      cases hn
  keys := by
    intro f g h
    rw [associationOf?, field?_congr (h "associationType" (by decide)),
      field?_congr (h "type" (by decide)), field?_congr (h "text" (by decide)),
      field?_congr (h "localMultiplicity" (by decide)),
      field?_congr (h "remoteMultiplicity" (by decide))]
    rfl

theorem decode_association (v : Value) :
    decode associationShape associationOf? v = association? v := by
  rw [decode_eq, complete_of_optional (by decide)]
  rfl

theorem reads_association : Reads (readRecord associationShape) association? :=
  (reads_record assembles_association).congr decode_association

/-! ### services -/

theorem serviceOf?_eq_some {unnamed : Option String} {f : Known} {s : Service} :
    serviceOf? unnamed f = some s ↔
      field? f "serviceName" Value.text? unnamed = some s.name ∧
      field? f "type" Value.optional? (some none) = some s.kind ∧
      field? f "stereotype" Value.optional? (some none) = some s.stereotype ∧
      field? f "associations" (Value.list? association?) (some []) = some s.associations := by
  unfold serviceOf?
  constructor
  · intro h
    simp only [bind, pure, Option.bind_eq_some_iff, Option.some.injEq] at h
    obtain ⟨_, h₁, _, h₂, _, h₃, _, h₄, rfl⟩ := h
    exact ⟨h₁, h₂, h₃, h₄⟩
  · rintro ⟨h₁, h₂, h₃, h₄⟩
    rw [h₁, h₂, h₃, h₄]
    rfl

/-- a service is read with an empty name until its name comes -/
theorem assembles_service : Assembles serviceShape (serviceOf? (some "")) where
  distinct := by decide
  start := rfl
  place := by
    intro field hf f s hs _
    obtain ⟨h₁, h₂, h₃, h₄⟩ := serviceOf?_eq_some.mp hs
    simp only [serviceShape, List.mem_cons, List.not_mem_nil, or_false] at hf
    rcases hf with rfl | rfl | rfl | rfl
    · refine Field.reads_text fun v => ?_
      simp (disch := decide) only [serviceOf?, Field.text, field?_add_self, field?_add_of_ne,
        h₂, h₃, h₄]
      cases v.text? <;> rfl
    · refine Field.reads_optional fun v => ?_
      simp (disch := decide) only [serviceOf?, Field.optional, field?_add_self, field?_add_of_ne,
        h₁, h₃, h₄]
      cases v.optional? <;> rfl
    · refine Field.reads_optional fun v => ?_
      simp (disch := decide) only [serviceOf?, Field.optional, field?_add_self, field?_add_of_ne,
        h₁, h₂, h₄]
      cases v.optional? <;> rfl
    · refine Field.reads_list reads_association fun v => ?_
      simp (disch := decide) only [serviceOf?, Field.list, field?_add_self, field?_add_of_ne,
        h₁, h₂, h₃]
      cases v.list? association? <;> rfl
  grows := by
    intro f g hfg hn
    cases hg : serviceOf? (some "") g with
    | none => rfl
    | some s =>
      obtain ⟨h₁, h₂, h₃, h₄⟩ := serviceOf?_eq_some.mp hg
      obtain ⟨_, h₁⟩ := field?_within hfg h₁
      obtain ⟨_, h₂⟩ := field?_within hfg h₂
      obtain ⟨_, h₃⟩ := field?_within hfg h₃
      obtain ⟨_, h₄⟩ := field?_within hfg h₄
      rw [serviceOf?, h₁, h₂, h₃, h₄] at hn
      cases hn
  keys := by
    intro f g h
    rw [serviceOf?, field?_congr (h "serviceName" (by decide)), field?_congr (h "type" (by decide)),
      field?_congr (h "stereotype" (by decide)), field?_congr (h "associations" (by decide))]
    rfl

/-- no service is complete without a name, and one that has a name needs none in its place -/
theorem complete_service (f : Known) :
    complete serviceShape (serviceOf? (some "")) f = serviceOf? none f := by
  have hreq : (∀ field ∈ serviceShape.fields, field.required = true → (f field.key).isSome) ↔
      (f "serviceName").isSome := by
    simp [serviceShape, Field.text, Field.optional, Field.list]
  unfold complete serviceOf? field?
  simp only [hreq]
  cases f "serviceName" with
  | none => rfl
  | some v => rfl

theorem decode_service (v : Value) :
    decode serviceShape (serviceOf? (some "")) v = service? v := by
  rw [decode_eq, funext complete_service]
  rfl

theorem reads_service : Reads (readRecord serviceShape) service? :=
  (reads_record assembles_service).congr decode_service

/-! ### contexts -/

theorem contextOf?_eq_some {f : Known} {c : Context} :
    contextOf? f = some c ↔
      field? f "serviceContextName" Value.text? (some "default") = some c.name ∧
      field? f "serviceContextFramework" framework? (some .grpc) = some c.framework ∧
      field? f "services" (Value.list? service?) (some []) = some c.services := by
  unfold contextOf?
  constructor
  · intro h
    simp only [bind, pure, Option.bind_eq_some_iff, Option.some.injEq] at h
    obtain ⟨_, h₁, _, h₂, _, h₃, rfl⟩ := h
    exact ⟨h₁, h₂, h₃⟩
  · rintro ⟨h₁, h₂, h₃⟩
    rw [h₁, h₂, h₃]
    rfl

theorem assembles_context : Assembles contextShape contextOf? where
  distinct := by decide
  start := by decide
  place := by
    intro field hf f c hc _
    obtain ⟨h₁, h₂, h₃⟩ := contextOf?_eq_some.mp hc
    simp only [contextShape, List.mem_cons, List.not_mem_nil, or_false] at hf
    rcases hf with rfl | rfl | rfl
    · refine Field.reads_text fun v => ?_
      simp (disch := decide) only [contextOf?, Field.text, field?_add_self, field?_add_of_ne,
        h₂, h₃]
      cases v.text? <;> rfl
    · refine Field.reads_text fun v => ?_
      simp (disch := decide) only [contextOf?, Field.text, field?_add_self, field?_add_of_ne,
        h₁, h₃]
      unfold framework?
      cases v.text? <;> rfl
    · refine Field.reads_list reads_service fun v => ?_
      simp (disch := decide) only [contextOf?, Field.list, field?_add_self, field?_add_of_ne,
        h₁, h₂]
      cases v.list? service? <;> rfl
  grows := by
    intro f g hfg hn
    cases hg : contextOf? g with
    | none => rfl
    | some c =>
      obtain ⟨h₁, h₂, h₃⟩ := contextOf?_eq_some.mp hg
      obtain ⟨_, h₁⟩ := field?_within hfg h₁
      obtain ⟨_, h₂⟩ := field?_within hfg h₂
      obtain ⟨_, h₃⟩ := field?_within hfg h₃
      rw [contextOf?, h₁, h₂, h₃] at hn
      cases hn
  keys := by
    intro f g h
    rw [contextOf?, field?_congr (h "serviceContextName" (by decide)),
      field?_congr (h "serviceContextFramework" (by decide)),
      field?_congr (h "services" (by decide))]
    rfl

theorem decode_context (v : Value) : decode contextShape contextOf? v = context? v := by
  rw [decode_eq, complete_of_optional (by decide)]
  rfl

/-- **A document is read as its value is decoded.** -/
theorem read_isText {v : Value} {s : String} (h : IsText v s.toList) :
    (read (Text.encode s)).toOption = context? v := by
  rw [encode_eq_utf8]
  exact (readWhole_isText assembles_context h).trans (decode_context v)

end ServiceDiagram.Document

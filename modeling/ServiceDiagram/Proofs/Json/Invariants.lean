import ServiceDiagram.Json.Record

/-!
# What all readings have in common

`Gives read P` says that whatever `read` reads, from any bytes, has the property `P`.  A record has
what its start has and each field keeps (`gives_record`); the elements of a list have what each
element read alone has (`gives_list`).  -/

namespace ServiceDiagram.Json

variable {α β : Type}

theorem map_eq_ok {r : Except Fault α} {f : α → β} {y : β} (h : r.map f = .ok y) :
    ∃ x, r = .ok x ∧ f x = y := by
  cases r with
  | error e => cases h
  | ok x =>
    cases h
    exact ⟨x, rfl, rfl⟩

/-- every result of a reader has a property -/
def Gives (read : Bytes → Except Fault (α × Bytes)) (P : α → Prop) : Prop :=
  ∀ ⦃bs x rest⦄, read bs = .ok (x, rest) → P x

theorem Gives.map {read : Bytes → Except Fault (α × Bytes)} {P : α → Prop} {Q : β → Prop}
    (h : Gives read P) {f : α → β} (hf : ∀ x, P x → Q (f x)) :
    Gives (fun bs => (read bs).map fun p => (f p.1, p.2)) Q := by
  intro bs y rest hy
  obtain ⟨p, hr, e⟩ := map_eq_ok hy
  cases e
  exact hf p.1 (h hr)

theorem gives_true (read : Bytes → Except Fault (α × Bytes)) : Gives read fun _ => True :=
  fun _ _ _ _ => trivial

/-! ### lists -/

theorem gives_items {read : Bytes → Except Fault (α × Bytes)} {P : α → Prop} (h : Gives read P)
    (fuel : Nat) (first : Bool) : Gives (readItems read fuel first) fun xs => ∀ x ∈ xs, P x := by
  induction fuel generalizing first with
  | zero =>
    intro bs xs rest hr
    cases hr
  | succ fuel ih =>
    intro bs xs rest hr
    rw [readItems] at hr
    split at hr
    · cases hr
    · cases hr
      intro x hx
      cases hx
    · split at hr
      · cases hr
      · next x after hx =>
        split at hr
        · cases hr
        · next ys behind hys =>
          cases hr
          rw [List.forall_mem_cons]
          exact ⟨h hx, ih false hys⟩

theorem gives_list {read : Bytes → Except Fault (α × Bytes)} {P : α → Prop} (h : Gives read P) :
    Gives (readList read) fun xs => ∀ x ∈ xs, P x := by
  intro bs xs rest hr
  rw [readList] at hr
  split at hr
  · cases hr
  · split at hr
    · split at hr
      · cases hr
      · next ys after hys =>
        obtain ⟨behind, -, e⟩ := map_eq_ok hr
        cases e
        exact gives_items h _ _ hys
    · cases hr

/-! ### records -/

section
variable {shape : Shape α} {fields : List (Field α)} {P : α → Prop}

def Keeps (fields : List (Field α)) (P : α → Prop) : Prop :=
  ∀ field ∈ fields, ∀ x, P x → Gives (field.read x) P

theorem keeps_member (h : Keeps fields P) {given given' : List String} {x y : α} {bs rest : Bytes}
    (hx : P x) (hr : readMember fields given x bs = .ok (given', y, rest)) : P y := by
  unfold readMember at hr
  split at hr
  · cases hr
  · split at hr
    · next field hf =>
      split at hr
      · cases hr
      · split at hr
        · cases hr
        · next after _ =>
          obtain ⟨p, he, e⟩ := map_eq_ok hr
          cases e
          exact h field (List.mem_of_find?_eq_some hf) x hx he
    · split at hr
      · cases hr
      · obtain ⟨behind, -, e⟩ := map_eq_ok hr
        cases e
        exact hx

theorem keeps_members (h : Keeps fields P) {fuel : Nat} {first : Bool} {given given' : List String}
    {x y : α} {bs rest : Bytes} (hx : P x)
    (hr : readMembers fields fuel first given x bs = .ok (given', y, rest)) : P y := by
  induction fuel generalizing first given x bs with
  | zero => cases hr
  | succ fuel ih =>
    rw [readMembers] at hr
    split at hr
    · cases hr
    · cases hr
      exact hx
    · split at hr
      · cases hr
      · next hm => exact ih (keeps_member h hx hm) hr

theorem keeps_positions (h : Keeps fields P) {index : Nat} {first : Bool} {x y : α}
    {bs rest : Bytes} (hx : P x)
    (hr : readPositions shape fields index first x bs = .ok (y, rest)) : P y := by
  induction fields generalizing index first x bs with
  | nil =>
    cases hr
    exact hx
  | cons field fields ih =>
    have h' : Keeps fields P := fun g hg => h g (List.mem_cons_of_mem field hg)
    rw [readPositions] at hr
    split at hr
    · cases hr
    · split at hr
      · cases hr
      · exact ih h' hx hr
    · split at hr
      · cases hr
      · next he => exact ih h' (h field List.mem_cons_self x hx he) hr

/-- **A record has what its start has and its fields keep.** -/
theorem gives_record (hs : P shape.start) (h : Keeps shape.fields P) :
    Gives (readRecord shape) P := by
  intro bs x rest hr
  unfold readRecord at hr
  split at hr
  · cases hr
  · split at hr
    · split at hr
      · cases hr
      · next y after hy =>
        obtain ⟨behind, -, e⟩ := map_eq_ok hr
        cases e
        exact keeps_positions h hs hy
    · split at hr
      · split at hr
        · cases hr
        · next given y after hy =>
          split at hr
          · cases hr
          · obtain ⟨behind, -, e⟩ := map_eq_ok hr
            cases e
            exact keeps_members h hs hy
      · cases hr

theorem gives_whole (hs : P shape.start) (h : Keeps shape.fields P) {bs : Bytes} {x : α}
    (hr : readWhole shape bs = .ok x) : P x := by
  unfold readWhole at hr
  split at hr
  · cases hr
  · next y rest hy =>
    split at hr
    · cases hr
      exact gives_record hs h hy
    · cases hr

end

/-! ### fields -/

namespace Field
variable {key : String} {x : α} {P : α → Prop}

theorem gives_text {required : Bool} {set : α → String → α} (h : ∀ s, P (set x s)) :
    Gives ((text key required set).read x) P :=
  (gives_true readText).map fun s _ => h s

theorem gives_optional {set : α → Option String → α} (h : ∀ s, P (set x s)) :
    Gives ((optional key set).read x) P :=
  (gives_true (readOption readText)).map fun s _ => h s

theorem gives_list {read : Bytes → Except Fault (β × Bytes)} {Q : β → Prop} {set : α → List β → α}
    (hq : Gives read Q) (h : ∀ ys, (∀ y ∈ ys, Q y) → P (set x ys)) :
    Gives ((list key read set).read x) P :=
  (Json.gives_list hq).map h

end Field

end ServiceDiagram.Json

import ServiceDiagram.Proofs.Document.RoundTrip
import ServiceDiagram.Proofs.Storage.Faithful
import ServiceDiagram.Store

/-!
# Stored documents

What `Store.load` gives, said about the value of the document in the file, and about the context
that was saved.  A store that is loaded and saved and loaded again gives the same context, whatever
the first document looked like.  -/

namespace ServiceDiagram.Store

open Json

variable {σ : Type} {storage : Storage σ} {file : String} {files : σ}

/-! ### loading -/

theorem load_fst (storage : Storage σ) (file : String) (files : σ) :
    (load storage file files).1 = loaded (storage.read file files).1 := rfl

/-- **Loading depends on nothing but the value of the document.**  It succeeds exactly if the value
stands for a context, and gives this context. -/
theorem load_isText {v : Value} {s : String} (hv : IsText v s.toList)
    (hr : (storage.read file files).1 = .ok (Text.encode s)) :
    match Document.context? v with
    | some c => (load storage file files).1 = .ok (some c)
    | none => ∃ cause, (load storage file files).1 = .error (.document cause) := by
  have key := Document.read_isText hv
  rw [load_fst, hr, loaded]
  cases hd : Document.read (Text.encode s) with
  | ok c =>
    rw [hd] at key
    rw [← key]
    rfl
  | error cause =>
    rw [hd] at key
    rw [← key]
    exact ⟨cause, rfl⟩

/-- a document with blanks, a member that is not known, an escape, and a service that is a list -/
theorem load_isText_spaced :
    (load Memory.storage "data.json" (Memory.ofFiles [("data.json",
      Text.encode "\x7b \"extra\" : [1] , \"services\":[[\"\\u0041\",null]]\x7d")])).1 =
        .ok (some ⟨"default", .grpc, [⟨"A", none, none, []⟩]⟩) := by
  let one : Numeral := ⟨false, ['1'], none, none⟩
  have hdigits : AreDigits ['1'] :=
    ⟨List.cons_ne_nil _ _, List.forall_mem_singleton.mpr ⟨by decide, by decide⟩⟩
  have hone : one.Valid := ⟨hdigits, Or.inr (by decide), nofun, nofun⟩
  have hnumbers : Spells (.array [.number one.value]) "[1]".toList :=
    spells_writeList (List.forall_mem_singleton.mpr (.number hone) :
      ∀ p ∈ [(Value.number one.value, one.text)], _)
  have hunit : HexDigits 'A'.toNat "0041".toList := ⟨rfl, rfl⟩
  have hletter : SpellsText "A".toList "\\u0041".toList := SpellsText.cons (.unit hunit) .nil
  have hservice : Spells (.array [.string "A", .null]) "[\"\\u0041\",null]".toList :=
    spells_writeList (List.forall_mem_cons.mpr
        ⟨.string hletter, List.forall_mem_singleton.mpr .null⟩ :
      ∀ p ∈ [(Value.string "A", "\"\\u0041\"".toList), (.null, "null".toList)], _)
  have hservices : Spells (.array [.array [.string "A", .null]]) "[[\"\\u0041\",null]]".toList :=
    spells_writeList (List.forall_mem_singleton.mpr hservice :
      ∀ p ∈ [(Value.array [.string "A", .null], "[\"\\u0041\",null]".toList)], _)
  have hblank : AreBlanks [' '] := by simp [AreBlanks]
  let members : List Member :=
    [⟨[' '], "extra", escaped "extra", [' '],
        ⟨[' '], .array [.number one.value], "[1]".toList, [' ']⟩⟩,
      ⟨[' '], "services", escaped "services", [],
        ⟨[], .array [.array [.string "A", .null]], "[[\"\\u0041\",null]]".toList, []⟩⟩]
  have hobject : Spells (.object (members.map fun m => (m.key, m.item.value))) _ :=
    .object (List.cons_ne_nil _ _)
      (List.forall_mem_cons.mpr ⟨⟨hblank, hblank, hblank, hblank⟩,
        List.forall_mem_singleton.mpr ⟨hblank, areBlanks_nil, areBlanks_nil, areBlanks_nil⟩⟩)
      (List.forall_mem_cons.mpr ⟨spellsText_escaped "extra",
        List.forall_mem_singleton.mpr (spellsText_escaped "services")⟩)
      (List.forall_mem_cons.mpr ⟨hnumbers, List.forall_mem_singleton.mpr hservices⟩)
  exact load_isText ⟨[], _, [], rfl, areBlanks_nil, areBlanks_nil, hobject⟩ rfl

/-! ### saving and loading -/

theorem loaded_write {c : Context} (h : c.Canonical) :
    loaded (.ok (Document.write c)) = .ok (some c) := by
  rw [loaded, Document.read_write h]

theorem canonical_of_loaded {content : Except Fault Bytes} {c : Context}
    (h : loaded content = .ok (some c)) : c.Canonical := by
  unfold loaded at h
  split at h
  · next bs =>
    split at h
    · next d hd =>
      cases h
      exact Document.canonical_of_read hd
    · cases h
  · cases h
  · cases h

variable {sound : σ → Prop}

theorem load_of_save (hs : storage.Faithful sound) (hf : sound files) {c : Context}
    (hc : c.Canonical) (hok : (save storage file c files).1 = .ok ()) :
    (load storage file (save storage file c files).2).1 = .ok (some c) := by
  show loaded (storage.read file (storage.write file (Document.write c) files).2).1 = _
  rw [hs.read_written hf hok]
  exact loaded_write hc

/-- **Loading undoes saving**, and what is loaded from any file can be saved and loaded again: its
kinds are canonical, and a kind that is not known keeps its label. -/
theorem load_save (hs : storage.Faithful sound) (hf : sound files) (c : Context) :
    (c.Canonical → (save storage file c files).1 = .ok () →
      (load storage file (save storage file c files).2).1 = .ok (some c)) ∧
    ((load storage file files).1 = .ok (some c) →
      c.Canonical ∧
      ((save storage file c (load storage file files).2).1 = .ok () →
        (load storage file (save storage file c (load storage file files).2).2).1 = .ok (some c))) ∧
    ∀ label, (AssociationKind.ofLabel label).label = label := by
  refine ⟨load_of_save hs hf, fun hl => ?_, AssociationKind.label_ofLabel⟩
  have hc : c.Canonical := canonical_of_loaded hl
  exact ⟨hc, load_of_save hs (hs.sound_read hf file) hc⟩

/-- a context with escapes, an empty text, an absent one and a kind that is not known -/
theorem load_save_escapes :
    let c : Context := ⟨"\"\\\n\x01é", .rest,
      [⟨"", some "", none, [⟨.other "uses", "", some "", none, some "0..*"⟩]⟩]⟩
    (load Memory.storage "data.json" (save Memory.storage "data.json" c (Memory.ofFiles [])).2).1 =
      .ok (some c) := by
  intro c
  have hfaithful : Memory.storage.Faithful fun m => m.failReads = false := Memory.faithful
  have hsound : (Memory.ofFiles []).failReads = false := rfl
  refine (load_save hfaithful hsound c).1 ?_ rfl
  intro s hs a ha
  rw [List.mem_singleton.mp hs] at ha
  rw [List.mem_singleton.mp ha]
  show ∀ k ∈ AssociationKind.known, k.label ≠ "uses"
  decide

end ServiceDiagram.Store

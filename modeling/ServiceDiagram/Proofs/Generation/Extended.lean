import ServiceDiagram.Generation.Run
import ServiceDiagram.Proofs.Generation.Steps
import ServiceDiagram.Proofs.Storage.Documents
import ServiceDiagram.Proofs.Surroundings.Makes
import ServiceDiagram.Surroundings.Script
import ServiceDiagram.Surroundings.Server

/-!
# No saved work is lost

A run that loads a context only adds to it: whatever it saves on its way extends what was loaded,
and what it saved before.  A run that cannot load the document ends before it asks for anything
else.

* `Phase.Saves p c`   the phase saves the context `c`;
* `Grown c step`      where the run stands, it has an extension of `c`.
-/

namespace ServiceDiagram.Generation

/-- **A phase that saves a context**: it is asked for by the user, edited, or at the end of a run.
-/
inductive Phase.Saves : Phase → Context → Prop
  | storing (c) : Saves (.storing c) c
  | editing {t : Session.Turn} (h : t.point.Saves) : Saves (.editing t) t.editor.context
  | keeping (c) : Saves (.keeping c) c

abbrev Grown (c : Context) : Progress → Prop := Works c.Extends

variable {s : Settings} {p : Phase} {c d : Context} {step step' : Progress}

theorem Phase.Saves.eq_of_has (h : p.Saves c) (hp : p.Has d) : c = d := by
  cases h with
  | storing => cases hp; rfl
  | editing => cases hp; rfl
  | keeping => cases hp; rfl

theorem Phase.Saves.request_eq (h : p.Saves c) :
    p.request s = .write s.dataFile (Document.write c) := by
  cases h with
  | storing => rfl
  | editing h => exact Session.request_saves s.dataFile h
  | keeping => rfl

theorem Grown.mono (h : c.Extends d) (hd : Grown d step) : Grown c step :=
  Works.mono (fun _ he => h.trans he) hd

/-! ### one phase after the other -/

theorem edit_grown (c : Context) : Grown c (edit c) := (edit_works c).mono fun _ => Context.Edit.extends

/-- **Whatever the reply, the context only grows.** -/
theorem resume_grown (hp : p.Has c) (reply : (p.request s).Reply) : Grown c (p.resume s reply) :=
  (resume_works hp reply).mono fun _ => Context.Edit.extends

theorem afterLoading_grown {content : Except Fault Bytes}
    (h : Store.loaded content = .ok (some c)) (interactive : Bool) :
    Grown c (afterLoading s interactive content) := by
  rw [afterLoading_some h]
  cases interactive with
  | true => exact edit_grown c
  | false => exact .next (.drawing c) (.refl c)

/-! ### whole runs -/

variable {π σ φ : Type} {surroundings : Surroundings π σ φ} {w w' : World π σ φ}

theorem Grown.reaches (h : Grown c step)
    (hr : surroundings.Reaches (Phase.request s) (Phase.resume s) step w step' w') :
    Grown c step' := by
  induction hr with
  | here => exact h
  | reply _ ih =>
    cases ih with
    | next hp hd => exact (resume_grown hp _).mono hd

theorem reaches_loading {interactive : Bool}
    (h : surroundings.Reaches (Phase.request s) (Phase.resume s) (.next (.loading interactive)) w
      step' w') :
    step' = .next (.loading interactive) ∨
      surroundings.Reaches (Phase.request s) (Phase.resume s)
        (afterLoading s interactive (surroundings.storage.read s.dataFile w.files).1)
        { w with files := (surroundings.storage.read s.dataFile w.files).2 } step' w' := by
  rcases h.next_cases with ⟨he, -⟩ | hr
  · exact Or.inl he
  · rw [← resume_loading]
    exact Or.inr hr

theorem makes_loaded (hl : (Store.load surroundings.storage s.dataFile w.files).1 = .ok (some c))
    (interactive : Bool) :
    surroundings.Makes (Phase.request s) (Phase.resume s) (.next (.loading interactive)) w
      [.read s.dataFile] (if interactive then edit c else .next (.drawing c))
      { w with files := (surroundings.storage.read s.dataFile w.files).2 } := by
  have hresume : (Phase.loading interactive).resume s
      (surroundings.storage.read s.dataFile w.files).1 =
        if interactive then edit c else .next (.drawing c) := by
    rw [resume_loading, afterLoading_some hl]
  exact hresume ▸ .first (Phase.loading interactive) w

/-- **A run never loses saved work.**  If the stored document cannot be loaded, the run ends with
this fault, and reading it was all that was asked for.  If it is loaded, every context that is
written over it extends it, and extends whatever was written before.  -/
theorem loaded_extended (surroundings : Surroundings π σ φ) (s : Settings) (interactive : Bool)
    (w : World π σ φ) :
    let places := surroundings.Reaches (Phase.request s) (Phase.resume s)
    (∀ fault, (Store.load surroundings.storage s.dataFile w.files).1 = .error fault →
      (∀ fuel, run? surroundings s interactive (fuel + 1) w =
        some (.error fault, { w with files := (surroundings.storage.read s.dataFile w.files).2 })) ∧
      ∀ p w₁, places (.next (.loading interactive)) w (.next p) w₁ → p = .loading interactive) ∧
    ∀ c₀, (Store.load surroundings.storage s.dataFile w.files).1 = .ok (some c₀) →
      ∀ p w₁ c, places (.next (.loading interactive)) w (.next p) w₁ → p.Saves c →
        p.request s = .write s.dataFile (Document.write c) ∧ c₀.Extends c ∧
        ∀ q w₂ d, places (.next p) w₁ (.next q) w₂ → q.Saves d → c.Extends d := by
  intro places
  refine ⟨fun fault hl => ⟨fun fuel => ?_, fun p w₁ hp => ?_⟩, fun c₀ hl p w₁ c hp hc => ?_⟩
  · show surroundings.run (Phase.request s) (Phase.resume s) fuel
      ((Phase.loading interactive).resume s (surroundings.storage.read s.dataFile w.files).1) _ = _
    rw [resume_loading, afterLoading_error hl]
    cases fuel <;> rfl
  · rcases reaches_loading hp with he | hr
    · cases he
      rfl
    · rw [afterLoading_error hl] at hr
      cases hr.done_eq.1
  · have hgrown : Grown c₀ (.next p) := by
      rcases reaches_loading hp with he | hr
      · cases he
        cases hc
      · exact (afterLoading_grown hl interactive).reaches hr
    cases hgrown with
    | next hhas hd =>
      cases hc.eq_of_has hhas
      refine ⟨hc.request_eq, hd, fun q w₂ d hq hsaves => ?_⟩
      -- from here on the context grows from the one that is saved
      cases Grown.reaches (.next hhas (.refl c)) hq with
      | next hhas' hd' =>
        cases hsaves.eq_of_has hhas'
        exact hd'

/-- a context without services is loaded, and one is added -/
theorem loaded_extended_added :
    let c : Context := ⟨"Orders", .rest, []⟩
    let edited : Context := ⟨"Orders", .rest, [.new "A"]⟩
    let s : Surroundings Script Memory Fetched :=
      ⟨Script.prompter, Memory.storage, Fetched.unreachable⟩
    let w : World Script Memory Fetched :=
      ⟨.new [.position 1, .text "A"], Memory.ofFiles [("data.json", Document.write c)], .none⟩
    let saving : Phase := .editing ⟨⟨edited, .main⟩, .saveNew⟩
    saving.Saves edited ∧ c.Extends edited ∧
      ∃ w₁, s.Reaches (Phase.request .default) (Phase.resume .default) (.next (.loading true)) w
        (.next saving) w₁ := by
  intro c edited s w saving
  have hread : (s.storage.read "data.json" w.files).1 = .ok (Document.write c) :=
    Memory.read_of_lookup rfl List.lookup_cons_self
  have hl : (Store.load s.storage "data.json" w.files).1 = .ok (some c) := by
    rw [Store.load_fst, hread]
    exact Store.loaded_write fun s hs => absurd hs List.not_mem_nil
  have hstart : afterLoading .default true (s.storage.read "data.json" w.files).1 =
      .next (.editing ⟨.new c, .menu⟩) := by
    unfold afterLoading
    rw [← Store.load_fst, hl]
    rfl
  have hmenu : s.Reaches (Phase.request .default) (Phase.resume .default) (.next (.loading true)) w
      (.next (.editing ⟨.new c, .menu⟩)) w := by
    rw [← hstart, ← resume_loading]
    exact .first (Phase.loading true) w
  have hsaving : s.Reaches (Phase.request .default) (Phase.resume .default)
      (.next (.loading true)) w (.next saving) _ := hmenu.reply.reply
  have hsaves : saving.Saves edited := .editing trivial
  exact ⟨hsaves, ((loaded_extended s .default true w).2 c hl _ _ _ hsaving hsaves).2.1, _, hsaving⟩

end ServiceDiagram.Generation

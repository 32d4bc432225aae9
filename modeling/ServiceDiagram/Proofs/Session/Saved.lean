import ServiceDiagram.Proofs.Session.Steps
import ServiceDiagram.Proofs.Storage.Documents
import ServiceDiagram.Proofs.Surroundings.Reaches
import ServiceDiagram.Session.Run
import ServiceDiagram.Surroundings.Script
import ServiceDiagram.Surroundings.Server

/-!
# Nothing is left unsaved

A session that begins with the stored context has it stored whenever the user is asked and whenever
a turn ends; only at the points that save is the stored context one edit behind, and if the write
fails it stays there.  The invariant is `Kept`: what is stored leads to where the session stands
(`Leads`).  -/

namespace ServiceDiagram.Session

variable {π σ φ : Type}

/-- **Where a session comes by**, turn after turn, as long as no write fails.  Whoever holds the
session may begin another turn after any end of one.  -/
inductive Reached (s : Surroundings π σ φ) (file : String) (c : Context) (w₀ : World π σ φ) :
    Step Turn Result → World π σ φ → Prop
  | start : Reached s file c w₀ (start (.new c)) w₀
  | reply {t w} (h : Reached s file c w₀ (.next t) w) (hw : ¬ s.WriteFails w (t.request file)) :
      Reached s file c w₀ (t.resume file (s.reply w (t.request file)).1)
        (s.reply w (t.request file)).2
  | again {r w} (h : Reached s file c w₀ (.done r) w) : Reached s file c w₀ (start r.editor) w

/-- **Nothing is left unsaved here.**  At the end of a turn and wherever the user is asked, the
stored context is that of the session.  At a point that saves it is the context before the edit, and
if the write fails, the file and the stored context stay as they are.  -/
def Saved (storage : Storage σ) (file : String) : Step Turn Result → σ → Prop
  | .done r, files => (Store.load storage file files).1 = .ok (some r.editor.context)
  | .next t, files =>
    match t.request file with
    | .write name content =>
      ∃ before, (Store.load storage file files).1 = .ok (some before) ∧
        before.Edit t.editor.context ∧
        ∀ fault, (storage.write name content files).1 = .error fault →
          (storage.read file (storage.write name content files).2).1 =
              (storage.read file files).1 ∧
            (Store.load storage file (storage.write name content files).2).1 = .ok (some before)
    | _ => (Store.load storage file files).1 = .ok (some t.editor.context)

/-! ### requests -/

variable {s : Surroundings π σ φ} {file : String} {t : Turn} {w w' w₀ : World π σ φ}

theorem files_asks (h : ¬ t.point.Saves) : (s.reply w (t.request file)).2.files = w.files := by
  obtain ⟨e, p⟩ := t
  cases p with
  | saveNew => exact absurd trivial h
  | saveEdit name => exact absurd trivial h
  | _ => rfl

theorem saved_asks {storage : Storage σ} {files : σ} (h : ¬ t.point.Saves)
    (hl : (Store.load storage file files).1 = .ok (some t.editor.context)) :
    Saved storage file (.next t) files := by
  obtain ⟨e, p⟩ := t
  cases p with
  | saveNew => exact absurd trivial h
  | saveEdit name => exact absurd trivial h
  | _ => exact hl

/-! ### the invariant -/

variable {sound : σ → Prop} {c : Context} {step : Step Turn Result}

/-- the stored context leads to where the session stands -/
def Kept (storage : Storage σ) (sound : σ → Prop) (file : String) (step : Step Turn Result)
    (files : σ) : Prop :=
  sound files ∧ ∃ d : Context, (Store.load storage file files).1 = .ok (some d) ∧ d.Canonical ∧
    Leads d step

/-- one request keeps the invariant, unless it is a write that fails -/
theorem Kept.reply (hs : s.storage.Faithful sound) (h : Kept s.storage sound file (.next t) w.files)
    (hw : ¬ s.WriteFails w (t.request file)) :
    Kept s.storage sound file (t.resume file (s.reply w (t.request file)).1)
      (s.reply w (t.request file)).2.files := by
  obtain ⟨hf, d, hl, hd, ht⟩ := h
  have hleads := resume_leads file t ht.offered (s.reply w (t.request file)).1
  cases ht with
  | asks he hp ho =>
    rw [files_asks hp]
    exact ⟨hf, d, hl, hd, he ▸ hleads⟩
  | saves he hp =>
    -- the write succeeds, and what it wrote is loaded
    have hr := request_saves file hp
    have hok := Surroundings.write_ok hr hw
    have hd' := he.canonical hd
    rw [Surroundings.files_write hr]
    exact ⟨hs.sound_write hf _ _, t.editor.context, Store.load_of_save hs hf hd' hok, hd', hleads⟩

theorem Reached.kept (hs : s.storage.Faithful sound) (hf : sound w₀.files)
    (hl : (Store.load s.storage file w₀.files).1 = .ok (some c)) (h : Reached s file c w₀ step w) :
    Kept s.storage sound file step w.files := by
  induction h with
  | start =>
    exact ⟨hf, c, hl, Store.canonical_of_loaded hl, start_leads (.new c)⟩
  | reply _ hw ih => exact ih.reply hs hw
  | again _ ih =>
    obtain ⟨hf, d, hl, hd, hr⟩ := ih
    cases hr with
    | ends he => exact ⟨hf, d, hl, hd, he ▸ start_leads _⟩

theorem Kept.saved (hs : s.storage.Faithful sound) (h : Kept s.storage sound file step w.files) :
    Saved s.storage file step w.files := by
  obtain ⟨hf, d, hl, -, ht⟩ := h
  cases ht with
  | ends he =>
    rw [← he] at hl
    exact hl
  | asks he hp =>
    rw [← he] at hl
    exact saved_asks hp hl
  | @saves t he hp =>
    simp only [Saved, request_saves file hp]
    refine ⟨d, hl, he, fun fault hfail => ?_⟩
    have hread := hs.read_failed hf hfail file
    refine ⟨hread, ?_⟩
    rw [← hl]
    exact congrArg Store.loaded hread

/-! ### whole sessions -/

theorem Reached.of_reaches (h : Reached s file c w₀ step w) {step' : Step Turn Result}
    (hr : s.Reaches (Turn.request file) (Turn.resume file) step w step' w')
    (hw : ∀ t w₁, Reached s file c w₀ (.next t) w₁ → ¬ s.WriteFails w₁ (t.request file)) :
    Reached s file c w₀ step' w' := by
  induction hr with
  | here => exact h
  | reply _ ih => exact .reply ih (hw _ _ ih)

/-- the end of a turn is a place where the session comes by, if no write fails -/
theorem Reached.of_turn {e : Editor} (h : Reached s file c w₀ (Session.start e) w) {fuel : Nat}
    {r : Result} (ht : turn? s file fuel e w = some (r, w'))
    (hw : ∀ t w₁, Reached s file c w₀ (.next t) w₁ → ¬ s.WriteFails w₁ (t.request file)) :
    Reached s file c w₀ (.done r) w' :=
  h.of_reaches (Surroundings.reaches_of_run ht) hw

/-- **No unsaved change is ever pending.**  If a session begins with the context that is stored,
then wherever it comes by before a write has failed, nothing is left unsaved. -/
theorem saved_of_reached (hs : s.storage.Faithful sound) (hf : sound w₀.files)
    (hl : (Store.load s.storage file w₀.files).1 = .ok (some c)) (h : Reached s file c w₀ step w) :
    Saved s.storage file step w.files :=
  (h.kept hs hf hl).saved hs

/-- a service is added, but the first write fails: the stored context is still without it -/
theorem saved_of_reached_denied :
    let c : Context := ⟨"Orders", .rest, []⟩
    let files : Memory :=
      { Memory.ofFiles [("data.json", Document.write c)] with failWrite := fun n => n == 1 }
    let edited : Context := ⟨"Orders", .rest, [.new "A"]⟩
    (Store.load Memory.storage "data.json"
      (Memory.storage.write "data.json" (Document.write edited) files).2).1 = .ok (some c) := by
  intro c files edited
  let s : Surroundings Script Memory Fetched :=
    ⟨Script.prompter, Memory.storage, Fetched.unreachable⟩
  let w : World Script Memory Fetched := ⟨.new [.position 1, .text "A"], files, .none⟩
  have hl : (Store.load s.storage "data.json" w.files).1 = .ok (some c) := by
    have hread : (s.storage.read "data.json" w.files).1 = .ok (Document.write c) :=
      Memory.read_of_lookup rfl List.lookup_cons_self
    rw [Store.load_fst, hread]
    exact Store.loaded_write fun s hs => absurd hs List.not_mem_nil
  have hasked : Reached s "data.json" c w (.next ⟨⟨c, .adding⟩, .newName⟩) _ :=
    .reply .start (by rintro ⟨_, _, _, hr, -⟩; cases hr)
  have hadded : Reached s "data.json" c w (.next ⟨⟨edited, .main⟩, .saveNew⟩) _ :=
    .reply hasked (by rintro ⟨_, _, _, hr, -⟩; cases hr)
  have hsound : s.storage.Faithful fun m => m.failReads = false := Memory.faithful
  obtain ⟨before, hbefore, -, hfails⟩ := saved_of_reached hsound rfl hl hadded
  exact (hfails Memory.denied rfl).2.trans (hbefore.symm.trans hl)

end ServiceDiagram.Session

import ServiceDiagram.Proofs.Generation.Extended
import ServiceDiagram.Proofs.Generation.Files

/-!
# Running again

A run that ends well without a download leaves the diagram and the document of the context that it
reports (`built_of_run`).  Whatever the first document looked like, this one is in the form in which it
is written, so a batch run behind it loads the same context, makes the same output and writes both
files as they are (`Built.batch`), and so does every further one.

* `Built`       the files have the diagram and the document of a context;
* `Unchanged`   the user, the server and all files are as they were;
* `batches?`    batch runs one after the other.
-/

namespace ServiceDiagram.Generation

variable {π σ φ : Type}

/-- the files are those that a run leaves -/
structure Built (storage : Storage σ) (sound : σ → Prop) (s : Settings) (c : Context) (files : σ) :
    Prop where
  sound : sound files
  canonical : c.Canonical
  diagram : (storage.read s.diagramFile files).1 = .ok (Text.encode c.diagram)
  document : (storage.read s.dataFile files).1 = .ok (Document.write c)

/-- the user, the server and what is read are as they were -/
structure Unchanged (storage : Storage σ) (w w' : World π σ φ) : Prop where
  user : w'.user = w.user
  server : w'.server = w.server
  read : ∀ name, (storage.read name w'.files).1 = (storage.read name w.files).1

/-- all that a batch run asks for, if the files are those of a context: both are written as they are -/
def rewrites (s : Settings) (c : Context) : List Request :=
  [.read s.dataFile, .write s.diagramFile (Text.encode c.diagram),
    .write s.dataFile (Document.write c)]

def batches? (surroundings : Surroundings π σ φ) (s : Settings) (fuel : Nat) :
    Nat → World π σ φ → Option (List (Except Fault Output) × World π σ φ)
  | 0, w => some ([], w)
  | count + 1, w =>
    match run? surroundings s false fuel w with
    | none => none
    | some (result, w) =>
      (batches? surroundings s fuel count w).map fun (results, w) => (result :: results, w)

variable {surroundings : Surroundings π σ φ} {storage : Storage σ} {sound : σ → Prop} {s : Settings}
  {c : Context} {w w' w'' w₀ : World π σ φ}

theorem Unchanged.refl (storage : Storage σ) (w : World π σ φ) : Unchanged storage w w :=
  ⟨rfl, rfl, fun _ => rfl⟩

theorem Unchanged.trans (h : Unchanged storage w w') (h' : Unchanged storage w' w'') :
    Unchanged storage w w'' :=
  ⟨h'.user.trans h.user, h'.server.trans h.server, fun name => (h'.read name).trans (h.read name)⟩

/-! ### one batch run -/

theorem Built.of_unchanged (h : Built storage sound s c w.files) (hw : Unchanged storage w w')
    (hf : sound w'.files) : Built storage sound s c w'.files :=
  ⟨hf, h.canonical, (hw.read s.diagramFile).trans h.diagram, (hw.read s.dataFile).trans h.document⟩

theorem unchanged_read (hs : storage.Faithful sound) (hf : sound w.files) (name : String) :
    Unchanged storage w { w with files := (storage.read name w.files).2 } :=
  ⟨rfl, rfl, hs.read_read hf name⟩

theorem unchanged_write (hs : storage.Faithful sound) (hsep : storage.Separate sound)
    (hf : sound w.files) {name : String} {content : Bytes}
    (hr : (storage.read name w.files).1 = .ok content)
    (hok : (storage.write name content w.files).1 = .ok ()) :
    Unchanged storage w { w with files := (storage.write name content w.files).2 } :=
  ⟨rfl, rfl, hs.read_rewritten hsep hf hr hok⟩

/-- **A batch run leaves built files as they are**, and reports their context. -/
theorem Built.batch (hs : surroundings.storage.Faithful sound)
    (hsep : surroundings.storage.Separate sound)
    (hwrites : ∀ {files}, sound files → ∀ name content,
      (surroundings.storage.write name content files).1 = .ok ())
    (hd : s.download = false) (h : Built surroundings.storage sound s c w.files) :
    ∃ w', surroundings.Makes (Phase.request s) (Phase.resume s) (.next (.loading false)) w
        (rewrites s c) (.done (.ok (output s c))) w' ∧
      Unchanged surroundings.storage w w' ∧ Built surroundings.storage sound s c w'.files := by
  let storage := surroundings.storage
  let w₁ : World π σ φ := { w with files := (storage.read s.dataFile w.files).2 }
  let w₂ : World π σ φ :=
    { w₁ with files := (storage.write s.diagramFile (Text.encode c.diagram) w₁.files).2 }
  let w₃ : World π σ φ :=
    { w₂ with files := (storage.write s.dataFile (Document.write c) w₂.files).2 }
  let makes := surroundings.Makes (Phase.request s) (Phase.resume s)
  -- the document is loaded
  have hloaded : (Store.load storage s.dataFile w.files).1 = .ok (some c) := by
    rw [Store.load_fst, h.document]
    exact Store.loaded_write h.canonical
  have hmakes₁ : makes (.next (.loading false)) w [.read s.dataFile] (.next (.drawing c)) w₁ :=
    makes_loaded hloaded false
  have hw₁ : Unchanged storage w w₁ := unchanged_read hs h.sound s.dataFile
  have h₁ := h.of_unchanged hw₁ (hs.sound_read h.sound s.dataFile)
  -- the diagram is written as it is
  have hok₂ := hwrites h₁.sound s.diagramFile (Text.encode c.diagram)
  have hdrawn : (Phase.drawing c).resume s
      (storage.write s.diagramFile (Text.encode c.diagram) w₁.files).1 = .next (.keeping c) := by
    rw [hok₂]
    rfl
  have hmakes₂ : makes (.next (.drawing c)) w₁ [.write s.diagramFile (Text.encode c.diagram)]
      (.next (.keeping c)) w₂ :=
    hdrawn ▸ .first (Phase.drawing c) w₁
  have hw₂ : Unchanged storage w₁ w₂ := unchanged_write hs hsep h₁.sound h₁.diagram hok₂
  have h₂ := h₁.of_unchanged hw₂ (hs.sound_write h₁.sound s.diagramFile _)
  -- and so is the document
  have hok₃ := hwrites h₂.sound s.dataFile (Document.write c)
  have hkept : (Phase.keeping c).resume s
      (storage.write s.dataFile (Document.write c) w₂.files).1 = .done (.ok (output s c)) := by
    rw [hok₃]
    exact (resume_keeping c ()).trans (if_neg (Bool.eq_false_iff.mp hd))
  have hmakes₃ : makes (.next (.keeping c)) w₂ [.write s.dataFile (Document.write c)]
      (.done (.ok (output s c))) w₃ :=
    hkept ▸ .first (Phase.keeping c) w₂
  have hw₃ : Unchanged storage w₂ w₃ := unchanged_write hs hsep h₂.sound h₂.document hok₃
  have h₃ := h₂.of_unchanged hw₃ (hs.sound_write h₂.sound s.dataFile _)
  exact ⟨w₃, (hmakes₁.trans hmakes₂).trans hmakes₃, (hw₁.trans hw₂).trans hw₃, h₃⟩

/-! ### any number of them -/

/-- **Any number of batch runs leave built files as they are**, each with the same result. -/
theorem Built.batches (hs : surroundings.storage.Faithful sound)
    (hsep : surroundings.storage.Separate sound)
    (hwrites : ∀ {files}, sound files → ∀ name content,
      (surroundings.storage.write name content files).1 = .ok ())
    (hd : s.download = false) (h : Built surroundings.storage sound s c w.files) (count : Nat) :
    ∃ w', batches? surroundings s 3 count w =
        some (List.replicate count (.ok (output s c)), w') ∧
      Unchanged surroundings.storage w w' ∧ Built surroundings.storage sound s c w'.files := by
  induction count generalizing w with
  | zero => exact ⟨w, rfl, .refl surroundings.storage w, h⟩
  | succ count ih =>
    obtain ⟨w₁, hmakes, hw₁, h₁⟩ := h.batch hs hsep hwrites hd
    obtain ⟨w', hrest, hw', h'⟩ := ih h₁
    have hrun : run? surroundings s false 3 w = some (.ok (output s c), w₁) := hmakes.run_done 0
    refine ⟨w', ?_, hw₁.trans hw', h'⟩
    rw [batches?, hrun]
    simp only [hrest, Option.map_some, List.replicate_succ]

/-! ### behind a run -/

/-- **A run leaves built files** if it ends well without a download. -/
theorem built_of_run (hs : surroundings.storage.Faithful sound)
    (hsep : surroundings.storage.Separate sound) (hne : s.dataFile ≠ s.diagramFile)
    (hd : s.download = false) (hf : sound w₀.files) {interactive : Bool} {fuel : Nat} {o : Output}
    (h : run? surroundings s interactive fuel w₀ = some (.ok o, w)) :
    ∃ c, o = output s c ∧ Built surroundings.storage sound s c w.files := by
  rcases (Surroundings.reaches_of_run h).last_cases with ⟨he, -⟩ | ⟨p, w₁, hr, hresult, rfl⟩
  · cases he
  · obtain ⟨⟨answer, hok⟩, c, ho, hp⟩ := resume_eq_ok hresult.symm
    obtain ⟨hf₁, hsettled⟩ := settled_of_reaches hs hsep hne hf hr
    refine ⟨c, ho, ?_⟩
    rcases hp with ⟨rfl, -⟩ | ⟨image, rfl⟩
    · -- the document was written last, and the diagram was there before
      cases hsettled with
      | starts hp => cases hp
      | works hp hc hb =>
        cases hp
        exact ⟨hs.sound_write hf₁ _ _, hc, (hsep hf₁ hok hne.symm).trans hb,
          hs.read_written hf₁ hok⟩
    · cases hsettled with
      | starts hp => cases hp
      | works hp hc hb =>
        cases hp
        exact absurd hb.1 (Bool.eq_false_iff.mp hd)

/-- **Running again changes nothing.**  Behind a run that ended well without a download, with checked
settings and files that can be written, the files have the diagram and the document of what it
reported.  After any number of batch runs each of them has reported the same, the files, the user and
the server are as they were, and one more writes both files as they are and nothing else. -/
theorem run_repeated (hs : surroundings.storage.Faithful sound)
    (hsep : surroundings.storage.Separate sound)
    (hwrites : ∀ {files}, sound files → ∀ name content,
      (surroundings.storage.write name content files).1 = .ok ())
    (hcheck : s.check = .ok ()) (hd : s.download = false) (hf : sound w₀.files) {interactive : Bool}
    {fuel : Nat} {o : Output} (h : run? surroundings s interactive fuel w₀ = some (.ok o, w)) :
    (surroundings.storage.read s.diagramFile w.files).1 = .ok (Text.encode o.diagram) ∧
      (surroundings.storage.read s.dataFile w.files).1 = .ok (Document.write o.context) ∧
      ∀ count, ∃ w',
        batches? surroundings s 3 count w = some (List.replicate count (.ok o), w') ∧
        Unchanged surroundings.storage w w' ∧
        ∃ w'', surroundings.Makes (Phase.request s) (Phase.resume s) (.next (.loading false)) w'
            [.read s.dataFile, .write s.diagramFile (Text.encode o.diagram),
              .write s.dataFile (Document.write o.context)] (.done (.ok o)) w'' ∧
          Unchanged surroundings.storage w' w'' := by
  have hne := Settings.dataFile_ne_diagramFile hcheck
  obtain ⟨c, rfl, hbuilt⟩ := built_of_run hs hsep hne hd hf h
  refine ⟨hbuilt.diagram, hbuilt.document, fun count => ?_⟩
  obtain ⟨w', hbatches, hw', h'⟩ := hbuilt.batches hs hsep hwrites hd count
  obtain ⟨w'', hmakes, hw'', -⟩ := h'.batch hs hsep hwrites hd
  exact ⟨w', hbatches, hw', w'', hmakes, hw''⟩

/-- a session that adds a service with a type, over files in memory; then three batch runs and one more -/
theorem run_repeated_session :
    let surroundings : Surroundings Script Memory Fetched :=
      ⟨Script.prompter, Memory.storage, Fetched.unreachable⟩
    let answers : List Script.Answer :=
      [.text "Orders", .position 1, .position 1, .text "A", .position 2, .position 0, .position 2,
        .text "client", .position 3, .position 3]
    let c : Context := ⟨"Orders", .rest, [⟨"A", some "client", none, []⟩]⟩
    ∃ o w, run? surroundings .default true 20 ⟨.new answers, .ofFiles [], .none⟩ = some (.ok o, w) ∧
      o.context = c ∧
      (Memory.storage.read "data.json" w.files).1 = .ok (Document.write c) ∧
      ∃ w', batches? surroundings .default 3 3 w = some ([.ok o, .ok o, .ok o], w') ∧
        Unchanged Memory.storage w w' := by
  intro surroundings answers c
  let w₀ : World Script Memory Fetched := ⟨.new answers, .ofFiles [], .none⟩
  have hcontext : (run? surroundings .default true 20 w₀).map (fun r => r.1.toOption.map (·.context)) =
      some (some c) := by decide +kernel
  obtain ⟨⟨result, w⟩, hrun, hresult⟩ := Option.map_eq_some_iff.mp hcontext
  cases result with
  | error fault => cases hresult
  | ok o =>
    have ho : o.context = c := Option.some.inj hresult
    have hcheck : Settings.default.check = .ok () := Settings.check_default
      (Settings.eq_ok_of_toBool (by decide +kernel)) (Settings.eq_ok_of_toBool (by decide +kernel))
      (by decide)
    have hfaithful : surroundings.storage.Faithful
        fun m => m.failReads = false ∧ ∀ n, m.failWrite n = false := Memory.faithful_reliable
    have hseparate : surroundings.storage.Separate
        fun m => m.failReads = false ∧ ∀ n, m.failWrite n = false := fun h => Memory.separate h.1
    obtain ⟨-, hdocument, hbatches⟩ := run_repeated hfaithful hseparate
      (fun h => Memory.write_reliable h.2) hcheck rfl ⟨rfl, fun _ => rfl⟩ hrun
    obtain ⟨w', hthree, hunchanged, -⟩ := hbatches 3
    rw [ho] at hdocument
    exact ⟨o, w, hrun, ho, hdocument, w', hthree, hunchanged⟩

end ServiceDiagram.Generation

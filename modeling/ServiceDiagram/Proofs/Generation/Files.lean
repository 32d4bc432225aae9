import ServiceDiagram.Generation.Run
import ServiceDiagram.Proofs.Generation.Steps
import ServiceDiagram.Proofs.Settings.Checked
import ServiceDiagram.Proofs.Storage.Documents
import ServiceDiagram.Proofs.Surroundings.Reaches
import ServiceDiagram.Surroundings.Script
import ServiceDiagram.Surroundings.Server

/-!
# What a run leaves in its files

At the end of a run the document is the context that it reports, the diagram file has the diagram,
and the image file has what was fetched.  The check of the settings keeps the first two files apart.
The name of the image file comes from the context, so nothing keeps it apart from the others: where
it is one of them, the drawing is written over the document or over the diagram.

* `Output.Agrees`   the files agree with what a run reports;
* `Settled`         what the files hold wherever a run stands, on its way to that.
-/

namespace ServiceDiagram.Generation

variable {π σ φ : Type}

/-- **The files agree with what a run reports**, where the image file is none of the others. -/
structure Output.Agrees (storage : Storage σ) (files : σ) (s : Settings)
    (fetched : Context → Bytes → Prop) (o : Output) : Prop where
  document : o.imageFile ≠ some s.dataFile →
    (Store.load storage s.dataFile files).1 = .ok (some o.context)
  diagramFile : o.diagramFile = s.diagramFile
  diagram : o.imageFile ≠ some o.diagramFile →
    (storage.read o.diagramFile files).1 = .ok (Text.encode o.diagram)
  image : ∀ name, o.imageFile = some name →
    ∃ body, fetched o.context body ∧ (storage.read name files).1 = .ok body

/-- what the files hold when a run comes to a phase of writing or fetching -/
def Phase.Behind (storage : Storage σ) (files : σ) (s : Settings)
    (fetched : Context → Bytes → Prop) : Phase → Prop
  | .keeping c => (storage.read s.diagramFile files).1 = .ok (Text.encode c.diagram)
  | .fetching c =>
    s.download ∧ (storage.read s.diagramFile files).1 = .ok (Text.encode c.diagram) ∧
      (Store.load storage s.dataFile files).1 = .ok (some c)
  | .picturing c image =>
    s.download ∧ (storage.read s.diagramFile files).1 = .ok (Text.encode c.diagram) ∧
      (Store.load storage s.dataFile files).1 = .ok (some c) ∧ fetched c image
  | _ => True

/-- **What the files hold wherever a run stands.** -/
inductive Settled (storage : Storage σ) (files : σ) (s : Settings)
    (fetched : Context → Bytes → Prop) : Progress → Prop
  | fails (fault) : Settled storage files s fetched (.done (.error fault))
  | ends {o} (ho : o.Agrees storage files s fetched) : Settled storage files s fetched (.done (.ok o))
  | starts {p} (hp : p.Starts) : Settled storage files s fetched (.next p)
  | works {p c} (hp : p.Has c) (hc : c.Canonical) (hf : p.Behind storage files s fetched) :
      Settled storage files s fetched (.next p)

variable {surroundings : Surroundings π σ φ} {storage : Storage σ} {files : σ} {s : Settings}
  {fetched : Context → Bytes → Prop} {p : Phase} {c : Context} {step : Progress}

/-! ### starting and editing -/

theorem afterTurn_settled {turn : Step Session.Turn Session.Result}
    (h : Works Context.Canonical (afterTurn turn)) :
    Settled storage files s fetched (afterTurn turn) := by
  rcases afterTurn_cases turn with ⟨t, he⟩ | ⟨d, he⟩ | ⟨fault, he⟩ <;> rw [he] at h ⊢
  · cases h with
    | next hp hc => exact .works hp hc trivial
  · cases h with
    | next hp hc => exact .works hp hc trivial
  · exact .fails fault

theorem edit_settled (hc : c.Canonical) : Settled storage files s fetched (edit c) :=
  afterTurn_settled ((edit_works c).mono fun _ he => he.canonical hc)

theorem editing_settled {t : Session.Turn} (ho : t.point.Offered) (hc : t.editor.context.Canonical)
    (reply : (t.request s.dataFile).Reply) :
    Settled storage files s fetched ((Phase.editing t).resume s reply) := by
  have hleads := Session.resume_leads s.dataFile t ho reply
  rw [resume_editing]
  exact afterTurn_settled ((afterTurn_works hleads).mono fun _ he => he.canonical hc)

theorem loading_settled (interactive : Bool) (content : Except Fault Bytes) :
    Settled storage files s fetched ((Phase.loading interactive).resume s content) := by
  rw [resume_loading, afterLoading]
  cases hl : Store.loaded content with
  | error fault => exact .fails fault
  | ok stored =>
    cases stored with
    | none =>
      cases interactive with
      | true => exact .starts .welcome
      | false => exact .fails _
    | some c =>
      have hc := Store.canonical_of_loaded hl
      cases interactive with
      | true => exact edit_settled hc
      | false => exact .works (.drawing c) hc trivial

theorem Phase.Starts.settled (hp : p.Starts) (reply : (p.request s).Reply) :
    Settled storage files s fetched (p.resume s reply) := by
  cases hp with
  | loading interactive => exact loading_settled interactive reply
  | welcome =>
    cases reply with
    | ok _ => exact .starts .naming
    | error fault => exact .fails fault
  | naming =>
    cases reply with
    | ok name => exact .starts (.framework name)
    | error fault => exact .fails fault
  | framework name =>
    cases reply with
    | ok _ => exact .works (.storing _) (fun _ hs => absurd hs List.not_mem_nil) trivial
    | error fault => exact .fails fault

/-! ### writing and fetching -/

section
variable {sound : σ → Prop}

theorem keeping_settled (hs : storage.Faithful sound) (hsep : storage.Separate sound)
    (hne : s.dataFile ≠ s.diagramFile) (hf : sound files) (hc : c.Canonical)
    (hdiagram : (storage.read s.diagramFile files).1 = .ok (Text.encode c.diagram))
    (hok : (storage.write s.dataFile (Document.write c) files).1 = .ok ()) :
    Settled storage (storage.write s.dataFile (Document.write c) files).2 s fetched
      (if s.download then .next (.fetching c) else .done (.ok (output s c))) := by
  have hload := Store.load_of_save hs hf hc hok
  have hread := (hsep hf hok hne.symm).trans hdiagram
  split
  · next hd => exact .works (.fetching c) hc ⟨hd, hread, hload⟩
  · next hd =>
    have hnone : (output s c).imageFile = none := if_neg hd
    refine .ends ⟨fun _ => hload, rfl, fun _ => hread, fun name hname => ?_⟩
    rw [hnone] at hname
    cases hname

theorem picturing_settled {image : Bytes} (hs : storage.Faithful sound)
    (hsep : storage.Separate sound) (hf : sound files)
    (hb : (Phase.picturing c image).Behind storage files s fetched)
    (hok : (storage.write (imageFile s c) image files).1 = .ok ()) :
    Settled storage (storage.write (imageFile s c) image files).2 s fetched
      (.done (.ok (output s c))) := by
  obtain ⟨hd, hdiagram, hload, himage⟩ := hb
  have hsome : (output s c).imageFile = some (imageFile s c) := if_pos hd
  refine .ends ⟨fun hne => ?_, rfl, fun hne => ?_, fun name hname => ?_⟩
  · have hother : s.dataFile ≠ imageFile s c := fun e => hne (e ▸ hsome)
    rw [Store.load_fst, hsep hf hok hother, ← Store.load_fst]
    exact hload
  · have hother : s.diagramFile ≠ imageFile s c := fun e => hne (hsome.trans (congrArg some e.symm))
    exact (hsep hf hok hother).trans hdiagram
  · cases hsome.symm.trans hname
    exact ⟨image, himage, hs.read_written hf hok⟩

/-- **One request keeps the files in agreement.** -/
theorem Settled.reply {w : World π σ φ} (hs : surroundings.storage.Faithful sound)
    (hsep : surroundings.storage.Separate sound) (hne : s.dataFile ≠ s.diagramFile)
    (hf : sound w.files)
    (hfetch : ∀ c body, p = .fetching c →
      (surroundings.fetcher.fetch (url s c) w.server).1 = .ok body → fetched c body)
    (h : Settled surroundings.storage w.files s fetched (.next p)) :
    Settled surroundings.storage (surroundings.reply w (p.request s)).2.files s fetched
      (p.resume s (surroundings.reply w (p.request s)).1) := by
  cases h with
  | starts hp => exact hp.settled _
  | @works _ c hp hc hb =>
    cases hp with
    | storing =>
      cases (surroundings.reply w ((Phase.storing c).request s)).1 with
      | error fault => exact .fails fault
      | ok _ => exact edit_settled hc
    | editing ho => exact editing_settled ho hc _
    | drawing =>
      show Settled _ (surroundings.storage.write s.diagramFile (Text.encode c.diagram) w.files).2 s
        fetched ((Phase.drawing c).resume s (surroundings.storage.write s.diagramFile _ w.files).1)
      cases hw : (surroundings.storage.write s.diagramFile (Text.encode c.diagram) w.files).1 with
      | error fault => exact .fails fault
      | ok _ => exact .works (.keeping c) hc (hs.read_written hf hw)
    | keeping =>
      show Settled _ (surroundings.storage.write s.dataFile (Document.write c) w.files).2 s
        fetched ((Phase.keeping c).resume s (surroundings.storage.write s.dataFile _ w.files).1)
      cases hw : (surroundings.storage.write s.dataFile (Document.write c) w.files).1 with
      | error fault => exact .fails fault
      | ok _ => exact keeping_settled hs hsep hne hf hc hb hw
    | fetching =>
      show Settled _ w.files s fetched
        ((Phase.fetching c).resume s (surroundings.fetcher.fetch (url s c) w.server).1)
      cases hw : (surroundings.fetcher.fetch (url s c) w.server).1 with
      | error fault => exact .fails fault
      | ok image =>
        exact .works (.picturing c image) hc ⟨hb.1, hb.2.1, hb.2.2, hfetch c image rfl hw⟩
    | picturing _ image =>
      show Settled _ (surroundings.storage.write (imageFile s c) image w.files).2 s fetched
        ((Phase.picturing c image).resume s
          (surroundings.storage.write (imageFile s c) image w.files).1)
      cases hw : (surroundings.storage.write (imageFile s c) image w.files).1 with
      | error fault => exact .fails fault
      | ok _ => exact picturing_settled hs hsep hf hb hw

end

/-! ### whole runs -/

/-- what the server gave for the drawing of a context in a run -/
def Fetches (surroundings : Surroundings π σ φ) (s : Settings) (interactive : Bool)
    (w₀ : World π σ φ) (c : Context) (body : Bytes) : Prop :=
  ∃ w, surroundings.Reaches (Phase.request s) (Phase.resume s) (.next (.loading interactive)) w₀
      (.next (.fetching c)) w ∧
    (surroundings.fetcher.fetch (url s c) w.server).1 = .ok body

section
variable {sound : σ → Prop} {w₀ w : World π σ φ} {interactive : Bool}

theorem settled_of_reaches (hs : surroundings.storage.Faithful sound)
    (hsep : surroundings.storage.Separate sound) (hne : s.dataFile ≠ s.diagramFile)
    (hf : sound w₀.files)
    (h : surroundings.Reaches (Phase.request s) (Phase.resume s) (.next (.loading interactive)) w₀
      step w) :
    sound w.files ∧
      Settled surroundings.storage w.files s (Fetches surroundings s interactive w₀) step := by
  induction h with
  | here => exact ⟨hf, .starts (.loading interactive)⟩
  | @reply p w hr ih =>
    obtain ⟨hw, hp⟩ := ih
    refine ⟨hs.sound_reply hw _, hp.reply hs hsep hne hw fun c body hc hbody => ?_⟩
    rw [hc] at hr
    exact ⟨w, hr, hbody⟩

/-- **A run that ends well leaves files that agree with what it reports**, as far as the image file
is not one of the others: the settings are checked, whatever the files are at first and whatever the
user and the server answer. -/
theorem run_agrees (hs : surroundings.storage.Faithful sound)
    (hsep : surroundings.storage.Separate sound) (hcheck : s.check = .ok ()) (hf : sound w₀.files)
    {fuel : Nat} {o : Output} (h : run? surroundings s interactive fuel w₀ = some (.ok o, w)) :
    o.Agrees surroundings.storage w.files s (Fetches surroundings s interactive w₀) := by
  have hne := Settings.dataFile_ne_diagramFile hcheck
  obtain ⟨-, hsettled⟩ := settled_of_reaches hs hsep hne hf (Surroundings.reaches_of_run h)
  cases hsettled with
  | ends ho => exact ho

end

/-! ### batch runs over files in memory -/

section
variable (body : Bytes)

def batch : Surroundings Script Memory Fetched :=
  ⟨Script.prompter, Memory.storage, Fetched.answering 200 body⟩

def stored (s : Settings) (c : Context) : World Script Memory Fetched :=
  ⟨.new [], .ofFiles [(s.dataFile, Document.write c)], .none⟩

/-- the diagram is written, then the document, then the drawing -/
theorem run_batch (hd : s.download = true) (hc : c.Canonical) :
    ∃ w, run? (batch body) s false 5 (stored s c) = some (.ok (output s c), w) ∧
      w.files.failReads = false ∧
      w.files.files = Memory.put (imageFile s c) body (Memory.put s.dataFile (Document.write c)
        (Memory.put s.diagramFile (Text.encode c.diagram) [(s.dataFile, Document.write c)])) := by
  have hread : (Memory.storage.read s.dataFile (stored s c).files).1 = .ok (Document.write c) :=
    Memory.read_of_lookup rfl List.lookup_cons_self
  have hloaded : (Phase.loading false).resume s
      (Memory.storage.read s.dataFile (stored s c).files).1 = .next (.drawing c) := by
    rw [resume_loading, hread, afterLoading, Store.loaded_write hc]
    rfl
  have hkept : (Phase.keeping c).resume s (.ok ()) = .next (.fetching c) := if_pos hd
  let m₁ := (Memory.storage.write s.diagramFile (Text.encode c.diagram) (stored s c).files).2
  let m₂ := (Memory.storage.write s.dataFile (Document.write c) m₁).2
  let m₃ := (Memory.storage.write (imageFile s c) body m₂).2
  let run := (batch body).run (Phase.request s) (Phase.resume s)
  refine ⟨⟨.new [], m₃, Fetched.none.note (url s c)⟩, ?_, rfl, rfl⟩
  calc run? (batch body) s false 5 (stored s c)
    _ = run 4 ((Phase.loading false).resume s
          (Memory.storage.read s.dataFile (stored s c).files).1)
          ⟨.new [], (Memory.read s.dataFile (stored s c).files).2, .none⟩ := rfl
    _ = run 4 (.next (.drawing c)) (stored s c) := by
        rw [hloaded, Memory.read_snd]
        rfl
    _ = run 2 ((Phase.keeping c).resume s (.ok ())) ⟨.new [], m₂, .none⟩ := rfl
    _ = run 2 (.next (.fetching c)) ⟨.new [], m₂, .none⟩ := by rw [hkept]
    _ = some (.ok (output s c), ⟨.new [], m₃, Fetched.none.note (url s c)⟩) := rfl

/-- the drawing of a context whose name is that of no other file -/
theorem run_agrees_apart :
    let s : Settings := { Settings.default with download := true }
    let c : Context := ⟨"Orders", .grpc, []⟩
    let body := Text.encode "drawing"
    s.check = .ok () ∧ ∃ w, run? (batch body) s false 5 (stored s c) = some (.ok (output s c), w) ∧
      (Memory.storage.read "Orders.svg" w.files).1 = .ok body ∧
      (Store.load Memory.storage "data.json" w.files).1 = .ok (some c) ∧
      (Memory.storage.read "service-package.puml" w.files).1 = .ok (Text.encode c.diagram) := by
  intro s c body
  have hcheck : s.check = .ok () := Settings.check_default
    (Settings.eq_ok_of_toBool (by decide +kernel)) (Settings.eq_ok_of_toBool (by decide +kernel))
    (by decide)
  have hcanonical : c.Canonical := fun _ hs => absurd hs List.not_mem_nil
  obtain ⟨w, hrun, -, -⟩ := run_batch (s := s) body rfl hcanonical
  have hfaithful : (batch body).storage.Faithful fun m => m.failReads = false := Memory.faithful
  have hseparate : (batch body).storage.Separate fun m => m.failReads = false := Memory.separate
  have hagrees := run_agrees hfaithful hseparate hcheck rfl hrun
  have himage : (output s c).imageFile = some "Orders.svg" := by decide
  refine ⟨hcheck, w, hrun, ?_, hagrees.document ?_, hagrees.diagram ?_⟩
  · obtain ⟨_, ⟨_, -, hbody⟩, hread⟩ := hagrees.image _ himage
    cases hbody
    exact hread
  · rw [himage]
    decide
  · rw [himage]
    decide

/-- **The drawing can be written over the diagram.**  These settings are checked and the run ends
well, but the file of the diagram has the drawing. -/
theorem run_overwrites_diagram :
    let s : Settings :=
      { Settings.default with diagramFile := "Orders.txt", variant := .markup, download := true }
    let c : Context := ⟨"Orders", .grpc, []⟩
    let body := Text.encode "drawing"
    s.check = .ok () ∧ ∃ o w, run? (batch body) s false 5 (stored s c) = some (.ok o, w) ∧
      o.diagramFile = "Orders.txt" ∧ o.imageFile = some "Orders.txt" ∧
      (Memory.storage.read o.diagramFile w.files).1 = .ok body ∧ Text.encode o.diagram ≠ body := by
  intro s c body
  have hcheck : s.check = .ok () := Settings.check_default
    (Settings.eq_ok_of_toBool (by decide +kernel)) (Settings.eq_ok_of_toBool (by decide +kernel))
    (by decide)
  have hcanonical : c.Canonical := fun _ hs => absurd hs List.not_mem_nil
  obtain ⟨w, hrun, hreads, hfiles⟩ := run_batch (s := s) body rfl hcanonical
  have himage : imageFile s c = "Orders.txt" := by decide
  refine ⟨hcheck, output s c, w, hrun, rfl, congrArg some himage, ?_, fun h => ?_⟩
  · refine Memory.read_of_lookup hreads ?_
    rw [hfiles, himage]
    exact Memory.lookup_put ..
  · have hdiagram : c.diagram ≠ "drawing" := by decide +kernel
    exact hdiagram (Text.encode_injective h)

end

end ServiceDiagram.Generation

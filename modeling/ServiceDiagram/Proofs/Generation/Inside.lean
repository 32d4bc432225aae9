import ServiceDiagram.Generation.Run
import ServiceDiagram.Proofs.Generation.Extended
import ServiceDiagram.Proofs.Settings.Checked
import ServiceDiagram.Proofs.Storage.Beneath
import ServiceDiagram.Proofs.Storage.Documents
import ServiceDiagram.Proofs.Surroundings.Makes
import ServiceDiagram.Surroundings.Script
import ServiceDiagram.Surroundings.Server

/-!
# A run stays in its directory

The names of the document and of the diagram are checked, and the name of the image file has the
separators of the context name replaced.  So whatever a run reads or writes is an entry of the
directory of its files (`Phase.isEntry_of_file?`), and on a disk nothing else is touched.

* `Request.file? r`   the file that a request reads or writes.
-/

namespace ServiceDiagram

/-- the file that a request reads or writes -/
def Request.file? : Request → Option String
  | .read name => some name
  | .write name _ => some name
  | _ => none

namespace Generation

variable {s : Settings} {p : Phase} {name : String}

/-! ### the image file -/

theorem not_mem_fileStem {c : Char} (hc : c = '/' ∨ c = '\\' ∨ c = ':' ∨ c = '\x00') (name : String) :
    c ∉ (fileStem name).toList := by
  unfold fileStem
  rw [String.toList_ofList]
  intro hmem
  obtain ⟨a, -, ha⟩ := List.mem_map.mp hmem
  split at ha
  · rw [← ha] at hc
    revert hc
    decide
  · next hother => exact hother (ha ▸ hc)

/-- **The image file of every context is an entry of the directory.** -/
theorem imageFile_isEntry (s : Settings) (c : Context) : Path.IsEntry (imageFile s c) := by
  have hlist : (imageFile s c).toList =
      (fileStem c.name).toList ++ '.' :: s.variant.extension.toList := by
    unfold imageFile
    rw [String.toList_append, String.toList_append, List.append_assoc]
    rfl
  have hending : s.variant.extension.toList.length = 3 := by cases s.variant <;> rfl
  have hplain : ∀ a : Char, a = '/' ∨ a = '\\' ∨ a = ':' ∨ a = '\x00' →
      a ∉ (imageFile s c).toList := by
    intro a ha
    rw [hlist, List.mem_append, not_or]
    refine ⟨not_mem_fileStem ha c.name, ?_⟩
    rcases ha with rfl | rfl | rfl | rfl <;> cases s.variant <;> decide
  -- a dot and an ending are too long for the names that are left
  have hlong : ∀ name : String, name.toList.length < 4 → imageFile s c ≠ name := by
    intro name hshort heq
    rw [← heq, hlist, List.length_append, List.length_cons, hending] at hshort
    omega
  exact ⟨hlong "" (by decide), hplain '/' (by decide), hplain '\\' (by decide),
    hplain '\x00' (by decide), hlong ".." (by decide)⟩

/-! ### requests -/

theorem file?_turn {file : String} {t : Session.Turn} (h : (t.request file).file? = some name) :
    name = file := by
  obtain ⟨e, point⟩ := t
  cases point with
  | saveNew => exact (Option.some.inj h).symm
  | saveEdit _ => exact (Option.some.inj h).symm
  | _ => cases h

/-- **What a run reads or writes** -/
theorem Phase.file?_cases (h : (p.request s).file? = some name) :
    name = s.dataFile ∨ name = s.diagramFile ∨ ∃ c, name = imageFile s c := by
  cases p with
  | loading interactive => exact Or.inl (Option.some.inj h).symm
  | storing c => exact Or.inl (Option.some.inj h).symm
  | keeping c => exact Or.inl (Option.some.inj h).symm
  | drawing c => exact Or.inr (Or.inl (Option.some.inj h).symm)
  | picturing c image => exact Or.inr (Or.inr ⟨c, (Option.some.inj h).symm⟩)
  | editing turn => exact Or.inl (file?_turn h)
  | _ => cases h

/-- **Whatever a phase reads or writes is an entry of the directory**, if the settings are checked. -/
theorem Phase.isEntry_of_file? (hcheck : s.check = .ok ()) (h : (p.request s).file? = some name) :
    Path.IsEntry name := by
  obtain ⟨-, -, hdata, hdiagram, -⟩ := Settings.check_eq_ok_iff.mp hcheck
  rcases Phase.file?_cases h with rfl | rfl | ⟨c, rfl⟩
  · exact Settings.checkFileName_eq_ok_iff.mp hdata
  · exact Settings.checkFileName_eq_ok_iff.mp hdiagram
  · exact imageFile_isEntry s c

/-! ### whole runs -/

variable {π σ φ : Type} {step step' : Progress} {rs : List Request}

theorem isEntry_of_makes (hcheck : s.check = .ok ()) {around : Surroundings π σ φ}
    {w w' : World π σ φ}
    (h : around.Makes (Phase.request s) (Phase.resume s) step w rs step' w') :
    ∀ r ∈ rs, ∀ name, r.file? = some name → Path.IsEntry name := by
  induction h with
  | none => exact List.forall_mem_nil _
  | reply _ ih =>
    rw [List.forall_mem_append, List.forall_mem_singleton]
    exact ⟨ih, fun name hname => Phase.isEntry_of_file? hcheck hname⟩

theorem reply_beneath {prompter : Prompter π} {fetcher : Fetcher φ} {base : String}
    (w : World π Disk φ) {r : Request} (h : ∀ name, r.file? = some name → Path.IsEntry name) :
    Disk.Beneath base w.files
      ((Surroundings.mk prompter (Disk.storage base) fetcher).reply w r).2.files := by
  cases r with
  | write name content => exact Disk.write_beneath base (h name rfl) content w.files
  | _ => exact .refl base w.files

theorem makes_beneath (hcheck : s.check = .ok ()) {prompter : Prompter π} {fetcher : Fetcher φ}
    {base : String} {w w' : World π Disk φ}
    (h : (Surroundings.mk prompter (Disk.storage base) fetcher).Makes (Phase.request s)
      (Phase.resume s) step w rs step' w') : Disk.Beneath base w.files w'.files := by
  induction h with
  | none => exact .refl base w.files
  | reply _ ih =>
    exact ih.trans (reply_beneath _ fun name hname => Phase.isEntry_of_file? hcheck hname)

/-- **A run with checked settings stays in its directory.**  Every file that it reads or writes is an
entry of it, whatever the files are at first, the user answers and the server gives.  On a disk nothing
else changes but what is missing on the way to the directory, and nothing else is read. -/
theorem run_inside (hcheck : s.check = .ok ()) (interactive : Bool) :
    (∀ {π σ φ : Type} (around : Surroundings π σ φ) w rs step w',
      around.Makes (Phase.request s) (Phase.resume s) (.next (.loading interactive)) w rs step w' →
        ∀ r ∈ rs, ∀ name, r.file? = some name → Path.IsEntry name ∧
          Path.ofText (Path.join s.dir name) =
            ⟨(Path.ofText s.dir).absolute, (Path.ofText s.dir).names ++ [name], false⟩) ∧
    ∀ {π φ : Type} (prompter : Prompter π) (fetcher : Fetcher φ) w rs step w',
      (Surroundings.mk prompter (Disk.storage s.dir) fetcher).Makes (Phase.request s)
          (Phase.resume s) (.next (.loading interactive)) w rs step w' →
        Disk.Beneath s.dir w.files w'.files ∧
        ∀ p name bytes, step = .next p → p.request s = .read name →
          ((Disk.storage s.dir).read name w'.files).1 = .ok bytes →
          ∃ place, w'.files.enter (Path.ofText s.dir).names = .ok place ∧
            w'.files.node? (place ++ [name]) = some (.file bytes) := by
  refine ⟨fun around w rs step w' h r hr name hname => ?_,
    fun prompter fetcher w rs step w' h => ⟨makes_beneath hcheck h, ?_⟩⟩
  · have hentry := isEntry_of_makes hcheck h r hr name hname
    exact ⟨hentry, Path.ofText_join s.dir hentry⟩
  · intro p name bytes _ hrequest hread
    have hname : (p.request s).file? = some name := by rw [hrequest]; rfl
    exact Disk.read_entry (Phase.isEntry_of_file? hcheck hname) hread

/-- the drawing of a context that is named like a file elsewhere -/
theorem run_inside_renamed :
    let s : Settings := { Settings.default with download := true }
    let c : Context := ⟨"../x", .rest, []⟩
    let body := Text.encode "drawing"
    let around : Surroundings Script Memory Fetched :=
      ⟨Script.prompter, Memory.storage, Fetched.answering 200 body⟩
    let w : World Script Memory Fetched :=
      ⟨.new [], .ofFiles [("data.json", Document.write c)], .none⟩
    s.check = .ok () ∧
      (∃ rs w', around.Makes (Phase.request s) (Phase.resume s) (.next (.loading false)) w rs
          (.done (.ok (output s c))) w' ∧ .write ".._x.svg" body ∈ rs) ∧
      Path.IsEntry ".._x.svg" := by
  intro s c body around w
  have hcheck : s.check = .ok () := Settings.check_default
    (Settings.eq_ok_of_toBool (by decide +kernel)) (Settings.eq_ok_of_toBool (by decide +kernel))
    (by decide)
  have hread : (around.storage.read "data.json" w.files).1 = .ok (Document.write c) :=
    Memory.read_of_lookup rfl List.lookup_cons_self
  have hl : (Store.load around.storage "data.json" w.files).1 = .ok (some c) := by
    rw [Store.load_fst, hread]
    exact Store.loaded_write (Context.canonical_of_bare (by decide))
  have himage : imageFile s c = ".._x.svg" := by decide
  let makes := around.Makes (Phase.request s) (Phase.resume s) (.next (.loading false)) w
  have hdrawing : makes _ (.next (.drawing c)) _ := makes_loaded (s := s) hl false
  have hmakes : makes _ (.done (.ok (output s c))) _ := hdrawing.reply.reply.reply.reply
  have hwrites : ∀ rs, Request.write ".._x.svg" body ∈ rs ++ [.write (imageFile s c) body] := by
    intro rs
    rw [himage]
    exact List.mem_append_right rs List.mem_cons_self
  exact ⟨hcheck, ⟨_, _, hmakes, hwrites _⟩,
    ((run_inside hcheck false).1 around w _ _ _ hmakes _ (hwrites _) ".._x.svg" rfl).1⟩

end Generation

end ServiceDiagram

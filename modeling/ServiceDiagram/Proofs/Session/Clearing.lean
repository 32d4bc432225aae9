import ServiceDiagram.Proofs.Session.Choices
import ServiceDiagram.Proofs.Surroundings.Makes
import ServiceDiagram.Proofs.Text.Trimmed
import ServiceDiagram.Surroundings.Terminal

/-!
# Clearing a field at a terminal

The stereotype and the type of a service are asked for with the value that they have as the default,
and a text without anything but blanks clears them.  A terminal hands over the default where a line is
blank, so there the field keeps what it has, and is cleared only if that was blank (`field_typed`).

* `Field`          a field of a service that is asked for;
* `typed old a`    what is left of a field when a line is typed for it.
-/

namespace ServiceDiagram.Session

/-! ### fields -/

inductive Field where
  | stereotype
  | kind

namespace Field

def point : Field → String → Point
  | .stereotype => .stereotype
  | .kind => .kind

def message : Field → String
  | .stereotype => "Stereotype (empty to clear)"
  | .kind => "Type (empty to clear)"

def value : Field → Service → Option String
  | .stereotype => (·.stereotype)
  | .kind => (·.kind)

def put : Field → Option String → Service → Service
  | .stereotype, value, s => { s with stereotype := value }
  | .kind, value, s => { s with kind := value }

theorem value_put (field : Field) (value : Option String) (s : Service) :
    field.value (field.put value s) = value := by
  cases field <;> rfl

theorem canonical_put (field : Field) (value : Option String) {s : Service} (h : s.Canonical) :
    (field.put value s).Canonical := by
  cases field <;> exact h

end Field

/-- what is left of a field when a line is typed for it -/
def typed (old : Option String) (a : String) : Option String :=
  if Text.isBlankText a then old.bind nonBlank else some (Text.trim a)

theorem nonBlank_trim (a : String) : nonBlank (Text.trim a) = nonBlank a := by
  have htrim : Text.trim (Text.trim a) = Text.trim a := Text.trimmed_trim a
  unfold nonBlank
  rw [htrim]

theorem nonBlank_getD (old : Option String) : nonBlank (old.getD "") = old.bind nonBlank := by
  cases old with
  | none => decide
  | some value => rw [Option.getD_some, Option.bind_some]

theorem typed_of_not_blank {a : String} (h : Text.isBlankText a = false) (old : Option String) :
    typed old a = nonBlank a := by
  unfold typed nonBlank
  unfold Text.isBlankText at h ⊢
  simp only [h, Bool.false_eq_true, if_false]

theorem nonBlank_handed (old : Option String) (a : String) :
    nonBlank (if Text.isBlankText a then old.getD "" else Text.trim a) = typed old a := by
  cases hblank : Text.isBlankText a with
  | true =>
    unfold typed
    rw [hblank, if_pos rfl, if_pos rfl, nonBlank_getD]
  | false => rw [typed_of_not_blank hblank, if_neg Bool.false_ne_true, nonBlank_trim]

/-- **A line does what it says exactly if it is not blank, or the field was.** -/
theorem typed_eq_iff {old : Option String} {a : String} :
    typed old a = nonBlank a ↔ Text.isBlankText a = false ∨ old.bind nonBlank = none := by
  cases hblank : Text.isBlankText a with
  | false => exact ⟨fun _ => Or.inl rfl, fun _ => typed_of_not_blank hblank old⟩
  | true =>
    have htyped : typed old a = old.bind nonBlank := if_pos hblank
    have hnone : nonBlank a = none := if_pos hblank
    rw [htyped, hnone]
    exact ⟨Or.inr, fun h => h.resolve_left (Bool.noConfusion ·)⟩

/-! ### asking for a field -/

variable {π σ φ : Type} {file name : String} {e : Editor} {a : String} {line : Bytes}

/-- the terminal hands over the default for a blank line -/
theorem input_line {t : Terminal} {rest : List Bytes} (hlines : t.lines = line :: rest)
    (ha : Text.decode? line = some a) (message default : String) :
    Terminal.input message default t =
      (.ok (if Text.isBlankText a then default else Text.trim a),
        ⟨rest, t.shown ++ [.question message default]⟩) := by
  unfold Terminal.input
  simp only [hlines, Terminal.answer?, ha, Option.map_some]
  rfl

theorem makes_field {s : Surroundings π σ φ} {w : World π σ φ} {user : π} {default answer : String}
    (field : Field) (hdefault : currentField e name field.value = default)
    (hinput : s.prompter.input field.message default w.user = (.ok answer, user)) :
    s.Makes (Turn.request file) (Turn.resume file) (.next ⟨e, field.point name⟩) w
      [.input field.message default] (afterEdit name (e.edit name (field.put (nonBlank answer))))
      { w with user := user } := by
  subst hdefault
  have hanswer := congrArg Prod.fst hinput
  have huser := congrArg (fun reply => { w with user := reply.2 }) hinput
  cases field with
  | stereotype => exact .first_eq (congrArg (Turn.resume file ⟨e, .stereotype name⟩) hanswer) huser
  | kind => exact .first_eq (congrArg (Turn.resume file ⟨e, .kind name⟩) hanswer) huser

def afterLine (c : Context) (i : Nat) (field : Field) (t : Service) (a : String) : Context :=
  { c with services := c.services.set i (field.put (typed (field.value t) a) t) }

section
variable {storage : Storage σ} {fetcher : Fetcher φ} {w : World Terminal σ φ} {i : Nat} {t : Service}
  {rest : List Bytes}

theorem makes_line (field : Field) (hnames : e.context.serviceNames.Nodup)
    (ht : e.context.services[i]? = some t) (hlines : w.user.lines = line :: rest)
    (ha : Text.decode? line = some a) :
    (Surroundings.mk Terminal.prompter storage fetcher).Makes (Turn.request file) (Turn.resume file)
      (.next ⟨e, field.point t.name⟩) w [.input field.message ((field.value t).getD "")]
      (.next ⟨{ e with context := afterLine e.context i field t a }, .saveEdit t.name⟩)
      { w with user :=
        ⟨rest, w.user.shown ++ [.question field.message ((field.value t).getD "")]⟩ } := by
  have hfirst : Context.IsFirst e.context.services i t := Context.nodup_names_iff.mp hnames i t ht
  have hdefault : currentField e t.name field.value = (field.value t).getD "" := by
    unfold currentField Context.find?
    rw [hfirst.find?]
    rfl
  have hedit := (edit_entry_iff ht).mp hfirst (field.put (typed (field.value t) a))
  have hmakes : (Surroundings.mk Terminal.prompter storage fetcher).Makes (Turn.request file)
      (Turn.resume file) (.next ⟨e, field.point t.name⟩) w _ _ _ :=
    makes_field field hdefault (input_line hlines ha field.message ((field.value t).getD ""))
  rw [nonBlank_handed, hedit] at hmakes
  exact hmakes

theorem canonical_afterLine (field : Field) (hc : e.context.Canonical)
    (ht : e.context.services[i]? = some t) (a : String) :
    (afterLine e.context i field t a).Canonical :=
  hc.set i (field.canonical_put _ (hc t (List.mem_of_getElem? ht)))

end

/-- **What a line does to a field** at a terminal: it is put into the service without the blanks at its
ends, but for a blank line that is what was there, so the field is not cleared unless it was blank.
Everything else stays, and what is stored is loaded as it is. -/
theorem field_typed {sound : σ → Prop} (file : String) (field : Field) {storage : Storage σ}
    (fetcher : Fetcher φ) (hs : storage.Faithful sound) {w : World Terminal σ φ} (hf : sound w.files)
    (hc : e.context.Canonical) (hnames : e.context.serviceNames.Nodup) {i : Nat} {t : Service}
    (ht : e.context.services[i]? = some t) {rest : List Bytes} (hlines : w.user.lines = line :: rest)
    (ha : Text.decode? line = some a) :
    let s : Surroundings Terminal σ φ := ⟨Terminal.prompter, storage, fetcher⟩
    let default := (field.value t).getD ""
    let new := typed (field.value t) a
    let c := { e.context with services := e.context.services.set i (field.put new t) }
    let user : Terminal := ⟨rest, w.user.shown ++ [.question field.message default]⟩
    let makes := s.Makes (Turn.request file) (Turn.resume file) (.next ⟨e, field.point t.name⟩) w
    makes [.input field.message default] (.next ⟨{ e with context := c }, .saveEdit t.name⟩)
        { w with user := user } ∧
      (∀ files, storage.write file (Document.write c) w.files = (.ok (), files) →
        makes [.input field.message default, .write file (Document.write c)]
            (.next ⟨{ e with context := c }, .action t.name⟩) ⟨user, files, w.server⟩ ∧
          (Store.load storage file files).1 = .ok (some c)) ∧
      (field.value (field.put new t) = nonBlank a ↔
        Text.isBlankText a = false ∨ (field.value t).bind nonBlank = none) := by
  intro s default new c user makes
  have hasks : makes [.input field.message default]
      (.next ⟨{ e with context := c }, .saveEdit t.name⟩) { w with user := user } :=
    makes_line field hnames ht hlines ha
  have hcanonical : c.Canonical := canonical_afterLine field hc ht a
  refine ⟨hasks, fun files hwrite => ⟨?_, ?_⟩, ?_⟩
  · have hanswer := congrArg Prod.fst hwrite
    have hfiles := congrArg (fun reply => World.mk user reply.2 w.server) hwrite
    exact hasks.trans (.first_eq (congrArg (Turn.resume file ⟨_, .saveEdit t.name⟩) hanswer) hfiles)
  · have hload := Store.load_of_save hs hf hcanonical (congrArg Prod.fst hwrite)
    have hfiles : (Store.save storage file c w.files).2 = files := congrArg Prod.snd hwrite
    rwa [hfiles] at hload
  · rw [field.value_put]
    exact typed_eq_iff

/-- a type with blanks around it, for a service that has none -/
theorem field_typed_trimmed :
    let s : Surroundings Terminal Memory Fetched :=
      ⟨Terminal.prompter, Memory.storage, Fetched.unreachable⟩
    let c : Context := ⟨"Orders", .grpc, [.new "A"]⟩
    let edited : Context := ⟨"Orders", .grpc, [⟨"A", some "Core", none, []⟩]⟩
    let w : World Terminal Memory Fetched := ⟨⟨[Text.encode " Core \n"], []⟩, .ofFiles [], .none⟩
    ∃ files, s.Makes (Turn.request "data.json") (Turn.resume "data.json")
        (.next ⟨⟨c, .managing⟩, .kind "A"⟩) w
        [.input "Type (empty to clear)" "", .write "data.json" (Document.write edited)]
        (.next ⟨⟨edited, .managing⟩, .action "A"⟩)
        ⟨⟨[], [.question "Type (empty to clear)" ""]⟩, files, .none⟩ ∧
      (Store.load Memory.storage "data.json" files).1 = .ok (some edited) := by
  intro s c edited w
  have hcanonical : c.Canonical := Context.canonical_of_bare (by decide)
  let e : Editor := ⟨c, .managing⟩
  have hdistinct : e.context.serviceNames.Nodup := by decide
  have hservice : e.context.services[0]? = some (.new "A") := rfl
  have hlines : w.user.lines = [Text.encode " Core \n"] := rfl
  have hline : Text.decode? (Text.encode " Core \n") = some " Core \n" := Text.decode?_encode _
  obtain ⟨-, hsaves, -⟩ := field_typed "data.json" .kind Fetched.unreachable Memory.faithful (w := w)
    rfl hcanonical hdistinct hservice hlines hline
  exact ⟨_, hsaves _ rfl⟩

/-- **A blank line does not clear a stereotype**: it is asked for and saved, and stays what it was. -/
theorem stereotype_kept :
    let c : Context := ⟨"Orders", .grpc, [⟨"A", none, some "Entity", []⟩]⟩
    let s : Surroundings Terminal Memory Fetched :=
      ⟨Terminal.prompter, Memory.storage, Fetched.unreachable⟩
    let t := Terminal.new (Text.encode "3\n1\n2\n\n4\n4\n")
    let after := turns s "data.json" t.fuel 2 0 (.new c)
      ⟨t, .ofFiles [("data.json", Document.write c)], .none⟩
    nonBlank "\n" = none ∧
      .question "Stereotype (empty to clear)" "Entity" ∈ after.2.2.user.shown ∧
      after.2.2.files.written = [("data.json", Document.write c)] ∧ after.2.1 = ⟨c, .closed⟩ ∧
      (Store.load Memory.storage "data.json" after.2.2.files).1 = .ok (some c) := by
  intro c s t after
  have hcanonical : c.Canonical := Context.canonical_of_bare (by decide)
  have hafter : .question "Stereotype (empty to clear)" "Entity" ∈ after.2.2.user.shown ∧
      after.2.2.files.written = [("data.json", Document.write c)] ∧ after.2.1 = ⟨c, .closed⟩ ∧
      after.2.2.files.failReads = false ∧
      after.2.2.files.files.lookup "data.json" = some (Document.write c) := by
    decide +kernel
  obtain ⟨hasked, hwritten, hend, hreads, hlookup⟩ := hafter
  have hread := congrArg Store.loaded (Memory.read_of_lookup hreads hlookup)
  exact ⟨by decide, hasked, hwritten, hend, hread.trans (Store.loaded_write hcanonical)⟩

end ServiceDiagram.Session

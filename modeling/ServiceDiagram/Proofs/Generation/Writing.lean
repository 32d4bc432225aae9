import ServiceDiagram.Generation.Run
import ServiceDiagram.Proofs.Storage.Documents
import ServiceDiagram.Proofs.Surroundings.Plans
import ServiceDiagram.Surroundings.Script
import ServiceDiagram.Surroundings.Server

/-!
# Writing fails cleanly

At the end of a run the diagram is written and then the document, and if there is to be a drawing, it
is fetched and written.  A request that fails ends the run with its fault.  The document is written
before anything is fetched, so it is there whatever becomes of the drawing.

* `keepingPlan`, `drawingPlan`   the requests of the two parts;
* `writingPlan`                  all of them, for a drawing that the server gives.
-/

namespace ServiceDiagram.Generation

def keepingPlan (s : Settings) (c : Context) : List Request :=
  [.write s.diagramFile (Text.encode c.diagram), .write s.dataFile (Document.write c)]

def drawingPlan (s : Settings) (c : Context) (image : Bytes) : List Request :=
  [.fetch (url s c), .write (imageFile s c) image]

/-- **All that is asked for at the end of a run** -/
def writingPlan (s : Settings) (c : Context) (image : Bytes) : List Request :=
  keepingPlan s c ++ if s.download then drawingPlan s c image else []

variable {π σ φ : Type} {around : Surroundings π σ φ} {s : Settings} {c : Context} {image : Bytes}
  {w w' : World π σ φ} {made : List Request} {fault : Option Fault}

/-! ### following the plan -/

/-- the run asks for what is planned, from where it stands in a world -/
abbrev Plans (around : Surroundings π σ φ) (s : Settings) (c : Context) :
    Progress → World π σ φ → List Request → Prop :=
  around.FollowsPlan (Phase.request s) (Phase.resume s) (.ok (output s c)) .error

theorem fetching_plans (himage : ∀ body,
    (around.fetcher.fetch (url s c) w.server).1 = .ok body → body = image) :
    Plans around s c (.next (.fetching c)) w (drawingPlan s c image) := by
  have hpicturing : ∀ w, Plans around s c (.next (.picturing c image)) w
      [.write (imageFile s c) image] :=
    fun w => .goesOn (fun _ => rfl) fun _ _ => .ends _
  refine .goesOn (fun _ => rfl) fun body hbody => ?_
  rw [himage body hbody]
  exact hpicturing _

theorem keeping_plans (himage : ∀ body,
    (around.fetcher.fetch (url s c) w.server).1 = .ok body → body = image) :
    Plans around s c (.next (.keeping c)) w
      (.write s.dataFile (Document.write c) :: if s.download then drawingPlan s c image else []) := by
  refine .goesOn (fun _ => rfl) fun _ _ => ?_
  show Plans around s c (if s.download then .next (.fetching c) else .done (.ok (output s c))) _ _
  by_cases hd : s.download = true
  · rw [if_pos hd, if_pos hd]
    exact fetching_plans himage
  · rw [if_neg hd, if_neg hd]
    exact .ends _

theorem drawing_plans (himage : ∀ body,
    (around.fetcher.fetch (url s c) w.server).1 = .ok body → body = image) :
    Plans around s c (.next (.drawing c)) w (writingPlan s c image) :=
  .goesOn (fun _ => rfl) fun _ _ => keeping_plans himage

/-! ### what is fetched -/

theorem not_mem_keepingPlan (link : String) : .fetch link ∉ keepingPlan s c := by
  intro h
  rcases List.mem_cons.mp h with h | h
  · cases h
  · cases List.mem_singleton.mp h

/-- **Nothing is fetched before the diagram and the document are written**, and then it is the
drawing. -/
theorem fetch_cases (h : around.CarriesOut w (writingPlan s c image) made fault w') {link : String}
    (hlink : .fetch link ∈ made) :
    link = url s c ∧ around.Succeeds w (keepingPlan s c) ∧
      ∃ made', made = keepingPlan s c ++ .fetch link :: made' ∧
        around.CarriesOut (around.after w (keepingPlan s c)) (drawingPlan s c image)
          (.fetch link :: made') fault w' := by
  rcases h.append_cases with ⟨-, hfront⟩ | ⟨made', rfl, hsucceeds, hlater⟩
  · exact absurd (hfront.subset hlink) (not_mem_keepingPlan link)
  · have hlink : .fetch link ∈ made' :=
      (List.mem_append.mp hlink).resolve_left (not_mem_keepingPlan link)
    by_cases hd : s.download = true
    · rw [if_pos hd] at hlater
      have hdrawing := hlater
      cases hlater with
      | fails _ =>
        obtain rfl : link = url s c := Request.fetch.inj (List.mem_singleton.mp hlink)
        exact ⟨rfl, hsucceeds, [], rfl, hdrawing⟩
      | @answered _ _ _ _ rest _ _ _ hrest =>
        rcases List.mem_cons.mp hlink with heq | hrest'
        · obtain rfl : link = url s c := Request.fetch.inj heq
          exact ⟨rfl, hsucceeds, rest, rfl, hdrawing⟩
        · cases List.mem_singleton.mp (hrest.isPrefix.subset hrest')
    · rw [if_neg hd] at hlater
      cases hlater
      cases hlink

/-! ### what is stored -/

section
variable {sound : σ → Prop}

theorem load_of_keeping (hs : around.storage.Faithful sound) (hf : sound w.files)
    (hc : c.Canonical) (h : around.Succeeds w (keepingPlan s c)) :
    (Store.load around.storage s.dataFile (around.after w (keepingPlan s c)).files).1 =
      .ok (some c) := by
  obtain ⟨-, ⟨_, hdocument⟩, -⟩ := h
  exact Store.load_of_save hs (hs.sound_reply hf _) hc hdocument

theorem load_of_drawing (hs : around.storage.Faithful sound) (hf : sound w.files)
    (h : around.CarriesOut w (drawingPlan s c image) made fault w')
    (hkept : fault ≠ none ∨ around.storage.Separate sound ∧ imageFile s c ≠ s.dataFile) :
    (Store.load around.storage s.dataFile w'.files).1 =
      (Store.load around.storage s.dataFile w.files).1 := by
  refine congrArg Store.loaded ?_
  cases h with
  | fails _ => rfl
  | answered _ hrest =>
    cases hrest with
    | fails hwrite => exact hs.read_failed hf hwrite s.dataFile
    | answered hwrite hend =>
      cases hend with
      | finished =>
        rcases hkept with hfault | ⟨hsep, hne⟩
        · exact absurd rfl hfault
        · exact hsep hf hwrite (Ne.symm hne)

end

/-! ### the end of a run -/

/-- **Writing that fails cleanly** -/
structure FailsCleanly (around : Surroundings π σ φ) (sound : σ → Prop) (s : Settings) (c : Context)
    (image : Bytes) (w : World π σ φ) (made : List Request) (fault : Option Fault)
    (w' : World π σ φ) : Prop where
  world : w' = around.after w made
  front : made <+: writingPlan s c image
  succeeds : fault = none ↔ around.Succeeds w (writingPlan s c image)
  whole : fault = none → made = writingPlan s c image
  /-- the fault is that of the first request that fails, and nothing is asked for behind it -/
  stops : ∀ f, fault = some f → ∃ front r back, writingPlan s c image = front ++ r :: back ∧
    made = front ++ [r] ∧ around.Succeeds w front ∧
    (around.reply (around.after w front) r).1 = .error f
  /-- when something is fetched, it is the drawing of the diagram that was written, and the context is
  stored -/
  fetched : ∀ link, .fetch link ∈ made → link = Link.url s.server s.variant c.diagram ∧
    keepingPlan s c ++ [.fetch link] <+: made ∧
    (Store.load around.storage s.dataFile (around.after w (keepingPlan s c)).files).1 = .ok (some c)
  /-- and it is still there in the end, if the drawing is not written over it -/
  kept : ∀ link, .fetch link ∈ made →
    fault ≠ none ∨ around.storage.Separate sound ∧ imageFile s c ≠ s.dataFile →
    (Store.load around.storage s.dataFile w'.files).1 = .ok (some c)
  untouched : ∀ f,
    (around.storage.write s.diagramFile (Text.encode c.diagram) w.files).1 = .error f →
    made = [.write s.diagramFile (Text.encode c.diagram)] ∧ fault = some f ∧
    (around.storage.read s.dataFile w'.files).1 = (around.storage.read s.dataFile w.files).1

theorem failsCleanly {sound : σ → Prop} (hs : around.storage.Faithful sound) (hf : sound w.files)
    (hc : c.Canonical) (h : around.CarriesOut w (writingPlan s c image) made fault w') :
    FailsCleanly around sound s c image w made fault w' where
  world := h.eq_after
  front := h.isPrefix
  succeeds := h.eq_none_iff
  whole := by
    intro hnone
    rcases h.stops with ⟨-, hmade⟩ | ⟨_, _, _, f, -, -, -, -, hfault⟩
    · exact hmade
    · cases hnone.symm.trans hfault
  stops := by
    intro f hsome
    rcases h.stops with ⟨hnone, -⟩ | ⟨front, r, back, f', hplan, hmade, hfront, hfails, hfault⟩
    · cases hnone.symm.trans hsome
    · cases hsome.symm.trans hfault
      exact ⟨front, r, back, hplan, hmade, hfront, hfails⟩
  fetched := by
    intro link hlink
    obtain ⟨rfl, hsucceeds, made', rfl, -⟩ := fetch_cases h hlink
    refine ⟨rfl, ⟨made', ?_⟩, load_of_keeping hs hf hc hsucceeds⟩
    rw [List.append_assoc, List.singleton_append]
  kept := by
    intro link hlink hkept
    obtain ⟨-, hsucceeds, made', -, hdrawing⟩ := fetch_cases h hlink
    have hsound : sound (around.after w (keepingPlan s c)).files :=
      hs.sound_reply (hs.sound_reply hf _) _
    rw [load_of_drawing hs hsound hdrawing hkept]
    exact load_of_keeping hs hf hc hsucceeds
  untouched := by
    intro f hwrite
    cases h with
    | fails hfails =>
      cases hfails.symm.trans hwrite
      exact ⟨rfl, rfl, hs.read_failed hf hwrite s.dataFile⟩
    | answered hanswer _ => cases hanswer.symm.trans hwrite

/-- **The end of a run fails cleanly** at every request: whichever writes fail, whatever the server
gives and whatever the context is named. -/
theorem writing_failsCleanly {sound : σ → Prop} (hs : around.storage.Faithful sound)
    (hf : sound w.files) (hc : c.Canonical) :
    let image := (around.fetcher.fetch (url s c) w.server).1.toOption.getD []
    ∃ made fault w', around.Makes (Phase.request s) (Phase.resume s) (.next (.drawing c)) w made
        (.done (fault.elim (.ok (output s c)) .error)) w' ∧
      FailsCleanly around sound s c image w made fault w' := by
  intro image
  have himage : ∀ body, (around.fetcher.fetch (url s c) w.server).1 = .ok body → body = image := by
    intro body hbody
    show body = (around.fetcher.fetch (url s c) w.server).1.toOption.getD []
    rw [hbody]
    rfl
  obtain ⟨made, fault, w', hmakes, hcarries⟩ := (drawing_plans himage).carriesOut
  exact ⟨made, fault, w', hmakes, failsCleanly hs hf hc hcarries⟩

/-- a drawing that the server refuses -/
theorem writing_failsCleanly_refused :
    let s : Settings := { Settings.default with download := true }
    let c : Context := ⟨"Orders", .grpc, []⟩
    let around : Surroundings Script Memory Fetched :=
      ⟨Script.prompter, Memory.storage, Fetched.answering 404 []⟩
    let w : World Script Memory Fetched := ⟨.new [], .ofFiles [], .none⟩
    ∃ w', around.Makes (Phase.request s) (Phase.resume s) (.next (.drawing c)) w
        (keepingPlan s c ++ [.fetch (url s c)]) (.done (.error (.refused (url s c) 404))) w' ∧
      (Store.load Memory.storage "data.json" w'.files).1 = .ok (some c) := by
  intro s c around w
  have hc : c.Canonical := Context.canonical_of_bare (by decide)
  let makes := around.Makes (Phase.request s) (Phase.resume s) (.next (.drawing c)) w
  have hnone : makes [] (.next (.drawing c)) w := .none
  have hrefused : makes (keepingPlan s c ++ [.fetch (url s c)])
      (.done (.error (.refused (url s c) 404))) _ := hnone.reply.reply.reply
  obtain ⟨made, fault, w', hmakes, hclean⟩ :=
    @writing_failsCleanly _ _ _ around s c w _ Memory.faithful rfl hc
  obtain ⟨rfl, hresult, rfl⟩ := hrefused.unique hmakes
  have hfault : fault ≠ none := by
    rintro rfl
    cases hresult
  have hfetched : Request.fetch (url s c) ∈ keepingPlan s c ++ [.fetch (url s c)] :=
    List.mem_append_right _ List.mem_cons_self
  exact ⟨_, hrefused, hclean.kept _ hfetched (Or.inl hfault)⟩

end ServiceDiagram.Generation

import ServiceDiagram.Proofs.Generation.Extended
import ServiceDiagram.Proofs.Session.Typed

/-!
# What is typed is drawn line by line

A run that starts without a document makes its context from what is typed at the terminal, whatever
bytes these are.  So its context is typed wherever the run stands (`typed_of_reaches`), and its diagram
has a line for each item.

* `Phase.Typed`   the phase comes before there is a context, or works with a typed one.
-/

namespace ServiceDiagram.Generation

open Text

def Phase.Typed : Phase → Prop
  | .loading _ => False
  | .welcome => True
  | .naming => True
  | .framework name => OneLine name
  | .storing c => c.Typed
  | .editing t => t.editor.context.Typed ∧ t.point.Typed
  | .drawing c => c.Typed
  | .keeping c => c.Typed
  | .fetching c => c.Typed
  | .picturing c _ => c.Typed

/-- **Where a run stands, everything was typed.** -/
inductive Typed (s : Settings) : Progress → Prop
  | fails (fault) : Typed s (.done (.error fault))
  | ends {c} (hc : c.Typed) : Typed s (.done (.ok (output s c)))
  | next {p} (hp : p.Typed) : Typed s (.next p)

variable {s : Settings} {p : Phase} {c : Context} {step step' : Progress}

/-! ### one phase after the other -/

theorem start_typed {e : Editor} (h : e.context.Typed) : Session.Typed (Session.start e) :=
  (Session.start_stays e).typed h

theorem editing_typed {t : Session.Turn} (h : Session.Typed (.next t)) :
    Typed s (.next (.editing t)) := by
  cases h with
  | next ht hp => exact .next ⟨ht, hp⟩

theorem afterTurn_typed {turn : Step Session.Turn Session.Result} (h : Session.Typed turn) :
    Typed s (afterTurn turn) := by
  have hfollows := follows_afterTurn turn
  generalize afterTurn turn = step at hfollows ⊢
  cases hfollows with
  | goesOn t => exact editing_typed h
  | again hs =>
    cases h with
    | ends he => exact editing_typed (hs ▸ start_typed he)
  | draws e flow =>
    cases h with
    | ends he => exact .next he
  | fails e fault => exact .fails fault

theorem edit_typed (hc : c.Typed) : Typed s (edit c) := afterTurn_typed (start_typed hc)

theorem oneLine_defaultName : OneLine Context.defaultName := by decide

theorem typed_ok (hp : p.Typed) {answer : (p.request s).Answer} (ha : (p.request s).Typed answer) :
    Typed s (p.resume s (.ok answer)) := by
  cases p with
  | loading interactive => exact False.elim hp
  | welcome => exact .next trivial
  | naming => exact .next (ha.oneLine oneLine_defaultName)
  | framework name => exact .next (Context.typed_new hp _)
  | storing c => exact edit_typed hp
  | editing t => exact afterTurn_typed (Session.afterAnswer_typed s.dataFile hp.1 hp.2 ha)
  | drawing c => exact .next hp
  | keeping c =>
    rw [resume_keeping]
    split
    · exact .next hp
    · exact .ends hp
  | fetching c => exact .next hp
  | picturing c image => exact .ends hp

theorem typed_error (hp : p.Typed) (fault : Fault) : Typed s (p.resume s (.error fault)) := by
  rcases resume_error p fault with ⟨interactive, rfl⟩ | he
  · exact False.elim hp
  · rw [he]
    exact .fails fault

/-! ### runs -/

section
variable {σ φ : Type} {storage : Storage σ} {fetcher : Fetcher φ} {w w' : World Terminal σ φ}

/-- **A request at a terminal keeps everything typed.** -/
theorem Typed.reply (hw : w.user.Cut) (h : Typed s (.next p)) :
    let out := (Terminal.surroundings storage fetcher).reply w (p.request s)
    Typed s (p.resume s out.1) ∧ out.2.user.Cut := by
  intro out
  refine ⟨?_, Terminal.reply_cut storage fetcher (p.request s) hw⟩
  cases h with
  | next hp =>
    cases hreply : out.1 with
    | ok answer => exact typed_ok hp (Terminal.reply_typed storage fetcher (p.request s) hw hreply)
    | error fault => exact typed_error hp fault

theorem typed_of_reaches (h : Typed s step) (hw : w.user.Cut)
    (hr : (Terminal.surroundings storage fetcher).Reaches (Phase.request s) (Phase.resume s) step w
      step' w') : Typed s step' ∧ w'.user.Cut := by
  induction hr with
  | here => exact ⟨h, hw⟩
  | reply _ ih => exact ih.1.reply ih.2

/-- **What is typed cannot break the lines of the diagram.**  If a run starts without a document and
ends well, its texts are one line each, its services have trimmed names that differ, its associations
have known kinds and trimmed targets, and its diagram has a line for each item. -/
theorem run_itemized (storage : Storage σ) (fetcher : Fetcher φ) (s : Settings) (input : Bytes)
    (files : σ) (server : φ) (hnone : (Store.load storage s.dataFile files).1 = .ok none) {fuel : Nat}
    {o : Output}
    (h : run? (Terminal.surroundings storage fetcher) s true fuel ⟨.new input, files, server⟩ =
      some (.ok o, w)) :
    (∀ t ∈ o.context.texts, OneLine t) ∧ o.context.serviceNames.Nodup ∧
      (∀ service ∈ o.context.services, Word service.name ∧
        ∀ a ∈ service.associations, a.kind ∈ AssociationKind.known ∧ Word a.target) ∧
      o.diagram = o.context.diagram ∧ o.context.Itemized := by
  have hstart : Typed s (afterLoading s true (storage.read s.dataFile files).1) := by
    rw [afterLoading_none hnone]
    exact .next trivial
  have hend : Typed s (.done (.ok o)) := by
    rcases reaches_loading (Surroundings.reaches_of_run h) with he | hr
    · cases he
    · exact (typed_of_reaches hstart (Terminal.cut_new input) hr).1
  cases hend with
  | ends hc =>
    refine ⟨hc.texts, hc.names, fun service hs => ?_, rfl, hc.itemized⟩
    have hservice := hc.services service hs
    refine ⟨hservice.name, fun a ha => ?_⟩
    have hassociation := hservice.associations a ha
    exact ⟨hassociation.kind, hassociation.target⟩

/-- a service of the default name with blanks in the answers, an aggregation and a type, in a session
that ends with the input left -/
theorem run_itemized_aggregation :
    let input := Text.encode
      "Orders\n\n2\n\nManage Service\n1\n1\n3\n  B \n x\n\n2 \n3\n grpc \n\n\n4\nmore"
    let c : Context := ⟨"Orders", .grpc,
      [⟨"default", some "grpc", none, [⟨.aggregation, "B", some "x", some "1", some "2"⟩]⟩]⟩
    ∃ o w, run? (Terminal.surroundings Memory.storage Fetched.unreachable) .default true 40
        ⟨.new input, .ofFiles [], .none⟩ = some (.ok o, w) ∧
      o.context = c ∧ (∀ t ∈ c.texts, OneLine t) ∧ o.diagram = c.diagram ∧ c.Itemized := by
  intro input c
  have hrun : (run? (Terminal.surroundings Memory.storage Fetched.unreachable) .default true 40
      ⟨.new input, .ofFiles [], .none⟩).map (fun r => r.1.toOption.map (·.context)) = some (some c) := by
    decide +kernel
  obtain ⟨⟨result, w⟩, hsome, hresult⟩ := Option.map_eq_some_iff.mp hrun
  cases result with
  | error fault => cases hresult
  | ok o =>
    have hcontext : o.context = c := Option.some.inj hresult
    obtain ⟨htexts, -, -, hdiagram, hitemized⟩ :=
      run_itemized Memory.storage Fetched.unreachable .default input (.ofFiles []) .none rfl hsome
    rw [hcontext] at htexts hdiagram hitemized
    exact ⟨o, w, hsome, hcontext, htexts, hdiagram, hitemized⟩

end

end ServiceDiagram.Generation

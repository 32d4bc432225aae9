import ServiceDiagram.Proofs.Escape.Normal
import ServiceDiagram.Proofs.Generation.Writing
import ServiceDiagram.Proofs.Payload.Link

/-!
# Links that show the diagram

A link carries its text without escapes, so it shows the text itself exactly if nothing in it is an
escape.  The end of a run writes the diagram as it is, and reports the link of the same diagram: whoever
follows the link sees what is in the diagram file, unless a name or a text in it looks like an escape.
-/

namespace ServiceDiagram

open Escape

theorem Link.shown?_urlBy_eq_iff {deflate : Bytes → Bytes} {inflate? : Bytes → Option (Bytes × Nat)}
    (h : Zlib.Inflates inflate? deflate) (server : String) (variant : Variant) (text : String) :
    shown? inflate? (urlBy deflate server variant text) = some text ↔ ¬ HasEscape text := by
  rw [shown?_urlBy h, Option.some_inj, normalize_eq_self_iff]

namespace Generation

variable {π σ φ : Type} {around : Surroundings π σ φ} {s : Settings} {c : Context}
  {w w' : World π σ φ} {made : List Request} {o : Output}

/-- **What the end of a run reports, it has written**: each of its requests was answered, and the first
one wrote the diagram. -/
theorem written_of_reported (h : around.Makes (Phase.request s) (Phase.resume s)
      (.next (.drawing c)) w made (.done (.ok o)) w') :
    o = output s c ∧ around.Succeeds w made ∧
      ∃ rest, made = .write s.diagramFile (Text.encode c.diagram) :: rest := by
  obtain ⟨image, himage⟩ : ∃ image, ∀ body,
      (around.fetcher.fetch (url s c) w.server).1 = .ok body → body = image := by
    cases (around.fetcher.fetch (url s c) w.server).1 with
    | ok body => exact ⟨body, fun _ hbody => (Except.ok.inj hbody).symm⟩
    | error fault => exact ⟨[], nofun⟩
  obtain ⟨made', fault, w'', hmakes, hcarries⟩ := (drawing_plans himage).carriesOut
  obtain ⟨rfl, hresult, rfl⟩ := h.unique hmakes
  cases fault with
  | some f => cases hresult
  | none =>
    cases hresult
    have hsucceeds := hcarries.eq_none_iff.mp rfl
    rcases hcarries.stops with ⟨-, hmade⟩ | ⟨_, _, _, f, -, -, -, -, hfault⟩
    · rw [← hmade] at hsucceeds
      exact ⟨rfl, hsucceeds, _, hmade⟩
    · cases hfault

/-- **Only what has no escapes is shown as it is.**  A text stays as it is exactly if nothing in it is an
escape, and becomes shorter otherwise, so that doing it again and again comes to an end.  A link shows
its text exactly if nothing in it is an escape, and so the link that the end of a run reports shows the
diagram that was written exactly if nothing in the diagram is one. -/
theorem shown_iff_no_escape (around : Surroundings π σ φ) (s : Settings) (c : Context) :
    (∀ text, (normalize text = text ↔ ¬ HasEscape text) ∧
      (HasEscape text → Text.unitLength (normalize text) < Text.unitLength text) ∧
      ∃ n ≤ Text.unitLength text, normalize (normalize^[n] text) = normalize^[n] text) ∧
    (∀ deflate inflate?, Zlib.Inflates inflate? deflate → ∀ server variant text,
      Link.shown? inflate? (Link.urlBy deflate server variant text) = some text ↔
        ¬ HasEscape text) ∧
    ∀ w made o w', around.Makes (Phase.request s) (Phase.resume s) (.next (.drawing c)) w made
        (.done (.ok o)) w' →
      around.Succeeds w made ∧
      (∃ rest, made = .write o.diagramFile (Text.encode o.diagram) :: rest) ∧
      ∀ inflate?, Zlib.Inflates inflate? Zlib.deflate →
        (Link.shown? inflate? o.url = some o.diagram ↔ ¬ HasEscape o.diagram) := by
  refine ⟨fun text => ⟨normalize_eq_self_iff, unitLength_normalize_lt, exists_normalize_settled text⟩,
    fun _ _ hinflates server variant text => Link.shown?_urlBy_eq_iff hinflates server variant text,
    fun w made o w' h => ?_⟩
  obtain ⟨rfl, hsucceeds, hwritten⟩ := written_of_reported h
  exact ⟨hsucceeds, hwritten, fun _ hinflates =>
    Link.shown?_urlBy_eq_iff hinflates s.server s.variant c.diagram⟩

/-- an escape in the name of a context -/
theorem shown_iff_no_escape_name :
    let s := Settings.default
    let c : Context := ⟨"A%20B", .grpc, []⟩
    let around : Surroundings Script Memory Fetched :=
      ⟨Script.prompter, Memory.storage, Fetched.answering 404 []⟩
    let w : World Script Memory Fetched := ⟨.new [], .ofFiles [], .none⟩
    HasEscape c.diagram ∧
      Text.unitLength (normalize c.diagram) < Text.unitLength c.diagram ∧
      (∃ w', around.Makes (Phase.request s) (Phase.resume s) (.next (.drawing c)) w
        (keepingPlan s c) (.done (.ok (output s c))) w') ∧
      Zlib.Inflates Zlib.inflate? Zlib.deflate ∧
      Link.shown? Zlib.inflate? (output s c).url ≠ some c.diagram ∧
      Link.shown? Zlib.inflate? (Link.urlBy Zlib.deflate s.server s.variant "A B") = some "A B" := by
  intro s c around w
  let makes := around.Makes (Phase.request s) (Phase.resume s) (.next (.drawing c)) w
  have hdigits : ∀ d ∈ ['2', '0'], Text.IsHexDigit d := by
    simp only [List.mem_cons, List.not_mem_nil, or_false, forall_eq_or_imp, forall_eq]
    decide
  have hescape : HasEscape c.diagram :=
    ⟨"%20".toList, Or.inl ⟨_, .short '2' '0', hdigits⟩, by decide +kernel⟩
  have hnone : makes [] (.next (.drawing c)) w := .none
  have hmakes : makes (keepingPlan s c) (.done (.ok (output s c))) _ := hnone.reply.reply
  obtain ⟨htexts, hlinks, hruns⟩ := shown_iff_no_escape around s c
  have hshown := ((hruns _ _ _ _ hmakes).2.2 _ Zlib.inflates_deflate).mp
  have hblank : normalize "A B" = "A B" := by decide +kernel
  exact ⟨hescape, (htexts _).2.1 hescape, ⟨_, hmakes⟩, Zlib.inflates_deflate,
    fun h => hshown h hescape,
    (hlinks _ _ Zlib.inflates_deflate _ _ _).mpr ((htexts _).1.mp hblank)⟩

end Generation

end ServiceDiagram

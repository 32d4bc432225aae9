import ServiceDiagram.Proofs.Generation.Ends
import ServiceDiagram.Proofs.Generation.Extended

/-!
# Sessions that save nothing

A session in which nothing is saved is a dialogue: it changes neither the files nor the server, and it
ends with the context that was loaded (`unsaved_of_makes`).  Behind it nobody is asked or told anything
(`makes_end`), so what follows depends on the files and the server only, and is what a batch run does
that has loaded the same document.

* `Unsaved c step`   an interactive run that has loaded `c` and saved nothing;
* `Finishing step`   a run behind the session.
-/

namespace ServiceDiagram

theorem Session.ofUser_of_not_saves {t : Turn} (file : String) (h : ¬ t.point.Saves) :
    (t.request file).ofUser = true := by
  obtain ⟨e, p⟩ := t
  cases p with
  | saveNew => exact absurd trivial h
  | saveEdit name => exact absurd trivial h
  | _ => rfl

namespace Generation

/-- **Where an interactive run stands that has saved nothing** -/
inductive Unsaved (c : Context) : Progress → Prop
  | fails (fault) : Unsaved c (.done (.error fault))
  | edits {t : Session.Turn} (h : Session.Leads c (.next t)) : Unsaved c (.next (.editing t))
  | draws : Unsaved c (.next (.drawing c))

/-- the phases behind the session -/
inductive Phase.Finishes : Phase → Prop
  | drawing (c) : Finishes (.drawing c)
  | keeping (c) : Finishes (.keeping c)
  | fetching (c) : Finishes (.fetching c)
  | picturing (c image) : Finishes (.picturing c image)

inductive Finishing : Progress → Prop
  | ends (result) : Finishing (.done result)
  | next {p} (hp : p.Finishes) : Finishing (.next p)

variable {s : Settings} {p : Phase} {c d : Context} {step step' : Progress}

/-! ### the session -/

theorem afterTurn_unsaved {turn : Step Session.Turn Session.Result} (h : Session.Leads c turn) :
    Unsaved c (afterTurn turn) := by
  have hfollows := follows_afterTurn turn
  generalize afterTurn turn = step at hfollows ⊢
  cases hfollows with
  | goesOn t => exact .edits h
  | again hs =>
    cases h with
    | ends he => exact .edits (he ▸ hs ▸ Session.start_leads _)
  | draws e flow =>
    cases h with
    | ends he => exact he ▸ .draws
  | fails e fault => exact .fails fault

theorem edit_unsaved (c : Context) : Unsaved c (edit c) :=
  afterTurn_unsaved (Session.start_leads (.new c))

theorem Unsaved.reply (h : Unsaved c (.next p))
    (hp : ∀ name content, p.request s ≠ .write name content) (reply : (p.request s).Reply) :
    Unsaved c (p.resume s reply) ∧ (p.request s).ofUser = true := by
  cases h with
  | draws => exact absurd rfl (hp s.diagramFile (Text.encode c.diagram))
  | @edits t h =>
    cases h with
    | saves _ hsaves => exact absurd (Session.request_saves s.dataFile hsaves) (hp _ _)
    | asks he hsaves ho =>
      have hleads := Session.resume_leads s.dataFile t ho reply
      have hresume : (Phase.editing t).resume s reply = afterTurn (t.resume s.dataFile reply) :=
        resume_editing s t reply
      rw [he] at hleads
      rw [hresume]
      exact ⟨afterTurn_unsaved hleads, Session.ofUser_of_not_saves s.dataFile hsaves⟩

section
variable {π σ φ : Type} {surroundings : Surroundings π σ φ} {w w' : World π σ φ} {rs : List Request}

/-- **A session that saves nothing leaves no trace.** -/
theorem unsaved_of_makes (h : Unsaved c step)
    (hr : surroundings.Makes (Phase.request s) (Phase.resume s) step w rs step' w')
    (hrs : ∀ name content, .write name content ∉ rs) :
    Unsaved c step' ∧ w.Alike w' ∧ ∀ r ∈ rs, r.ofUser = true := by
  induction hr with
  | none => exact ⟨h, ⟨rfl, rfl⟩, List.forall_mem_nil _⟩
  | @reply rs p w₁ _ ih =>
    obtain ⟨hp, halike, hofUser⟩ :=
      ih fun name content hm => hrs name content (List.mem_append_left _ hm)
    have hrequest : ∀ name content, p.request s ≠ .write name content := by
      intro name content he
      exact hrs name content (List.mem_append_right _ (List.mem_singleton.mpr he.symm))
    obtain ⟨hstep, huser⟩ := hp.reply hrequest (surroundings.reply w₁ (p.request s)).1
    refine ⟨hstep, halike.trans (Surroundings.alike_of_ofUser huser w₁), ?_⟩
    rw [List.forall_mem_append, List.forall_mem_singleton]
    exact ⟨hofUser, huser⟩

/-! ### behind the session -/

theorem Phase.Finishes.not_ofUser (hp : p.Finishes) : (p.request s).ofUser = false := by
  cases hp <;> rfl

theorem Phase.Finishes.not_asks (hp : p.Finishes) : ¬ (p.request s).asks := by
  cases hp <;> exact Bool.false_ne_true

theorem Phase.Finishes.reply (hp : p.Finishes) (reply : (p.request s).Reply) :
    Finishing (p.resume s reply) := by
  cases reply with
  | error fault =>
    cases hp <;> exact .ends _
  | ok answer =>
    cases hp with
    | drawing c => exact .next (.keeping c)
    | keeping c =>
      rw [resume_keeping]
      split
      · exact .next (.fetching c)
      · exact .ends _
    | fetching c => exact .next (.picturing c answer)
    | picturing c image => exact .ends _

theorem budget_finishes_lt (hp : p.Finishes) (reply : (p.request s).Reply) :
    budget (p.resume s reply) < p.budget := by
  cases reply with
  | error fault => exact budget_error_lt p fault
  | ok answer =>
    have hlt := budget_ok_lt p answer
    rwa [if_neg hp.not_asks] at hlt

/-- **Behind the session every run ends**, and nobody is asked or told anything. -/
theorem makes_end (surroundings : Surroundings π σ φ) {n : Nat} (h : Finishing step)
    (hn : budget step ≤ n) (w : World π σ φ) :
    ∃ made result w', surroundings.Makes (Phase.request s) (Phase.resume s) step w made
      (.done result) w' ∧ ∀ r ∈ made, r.ofUser = false := by
  induction n generalizing step w with
  | zero =>
    cases h with
    | ends result => exact ⟨[], result, w, .none, List.forall_mem_nil _⟩
    | @next p hp => exact absurd (Nat.lt_of_lt_of_le p.budget_pos hn) (Nat.lt_irrefl 0)
  | succ n ih =>
    cases h with
    | ends result => exact ⟨[], result, w, .none, List.forall_mem_nil _⟩
    | @next p hp =>
      let out := surroundings.reply w (p.request s)
      have hlt : budget (p.resume s out.1) < n + 1 := Nat.lt_of_lt_of_le (budget_finishes_lt hp out.1) hn
      obtain ⟨made, result, w', hmade, houtside⟩ :=
        ih (hp.reply out.1) (Nat.le_of_lt_succ hlt) out.2
      refine ⟨p.request s :: made, result, w', (Surroundings.Makes.first p w).trans hmade, ?_⟩
      exact List.forall_mem_cons.mpr ⟨hp.not_ofUser, houtside⟩

/-! ### both kinds of runs -/

theorem session_of_makes {w₁ : World π σ φ}
    (hl : (Store.load surroundings.storage s.dataFile w.files).1 = .ok (some c))
    (hsession : surroundings.Makes (Phase.request s) (Phase.resume s) (.next (.loading true)) w rs
      (.next (.drawing d)) w₁)
    (hunsaved : ∀ name content, .write name content ∉ rs) :
    ∃ rest, rs = .read s.dataFile :: rest ∧ c = d ∧
      World.Alike { w with files := (surroundings.storage.read s.dataFile w.files).2 } w₁ ∧
      ∀ r ∈ rest, r.ofUser = true := by
  rcases hsession.next_cases with ⟨-, he, -⟩ | ⟨rest, rfl, hrest⟩
  · cases he
  · have hedit : (Phase.loading true).resume s (surroundings.storage.read s.dataFile w.files).1 =
        edit c := by
      rw [resume_loading, afterLoading_some hl]
      rfl
    have hrest : surroundings.Makes (Phase.request s) (Phase.resume s) (edit c)
        { w with files := (surroundings.storage.read s.dataFile w.files).2 } rest
        (.next (.drawing d)) w₁ := hedit ▸ hrest
    obtain ⟨hdrawing, halike, hofUser⟩ := unsaved_of_makes (edit_unsaved c) hrest
      fun name content hm => hunsaved name content (List.mem_cons_of_mem _ hm)
    cases hdrawing
    exact ⟨rest, rfl, rfl, halike, hofUser⟩

/-- **An interactive run that saves nothing is a batch run with a dialogue.**  If it has loaded a
document and its session is left without anything being saved, it comes to the same result as a batch
run from the same files, with the same requests outside the dialogue, and leaves the same files and the
same server: whatever the user said, whichever writes fail, and whatever the server gives. -/
theorem unsaved_agrees {w₁ : World π σ φ}
    (hl : (Store.load surroundings.storage s.dataFile w.files).1 = .ok (some c))
    (hsession : surroundings.Makes (Phase.request s) (Phase.resume s) (.next (.loading true)) w rs
      (.next (.drawing d)) w₁)
    (hunsaved : ∀ name content, .write name content ∉ rs) :
    ∃ made result v v',
      (∀ extra, run? surroundings s true (rs.length + made.length + extra) w = some (result, v)) ∧
      (∀ extra, run? surroundings s false (1 + made.length + extra) w = some (result, v')) ∧
      surroundings.Makes (Phase.request s) (Phase.resume s) (.next (.loading true)) w (rs ++ made)
        (.done result) v ∧
      surroundings.Makes (Phase.request s) (Phase.resume s) (.next (.loading false)) w
        (.read s.dataFile :: made) (.done result) v' ∧
      (rs ++ made).filter (!·.ofUser) = .read s.dataFile :: made ∧
      v.files = v'.files ∧ v.server = v'.server := by
  obtain ⟨rest, rfl, rfl, halike, hofUser⟩ := session_of_makes hl hsession hunsaved
  obtain ⟨made, result, v, hmade, houtside⟩ :=
    makes_end surroundings (Finishing.next (.drawing c)) (Nat.le_refl _) w₁
  -- the rest of the run is made in both worlds
  obtain ⟨v', hmade', hv⟩ := hmade.of_alike houtside halike.symm
  have hwhole := hsession.trans hmade
  have hwhole' := (makes_loaded hl false).trans hmade'
  refine ⟨made, result, v, v', fun extra => ?_, fun extra => ?_, hwhole, hwhole', ?_, hv.files,
    hv.server⟩
  · rw [← List.length_append]
    exact hwhole.run_done extra
  · rw [Nat.add_comm 1]
    exact hwhole'.run_done extra
  · rw [List.cons_append, List.filter_cons_of_pos rfl]
    exact congrArg _ (Request.filter_not_ofUser hofUser houtside)

/-- choices that are none, a listing, two associations that are abandoned, and a write that fails -/
theorem unsaved_agrees_abandoned :
    let c : Context := ⟨"Orders", .rest, [.new "A"]⟩
    let answers : List Script.Answer :=
      [.position 9, .position 0, .position 2, .position 0, .position 0, .position 1, .text " ",
        .position 0, .position 7, .position 3, .position 3]
    let files : Memory :=
      { Memory.ofFiles [("data.json", Document.write c)] with failWrite := fun n => n == 2 }
    let surroundings : Surroundings Script Memory Fetched :=
      ⟨Script.prompter, Memory.storage, Fetched.unreachable⟩
    let w : World Script Memory Fetched := ⟨.new answers, files, .none⟩
    (Store.load surroundings.storage Settings.default.dataFile w.files).1 = .ok (some c) ∧
      ∃ fuel result v v', run? surroundings .default true fuel w = some (result, v) ∧
        (∃ fuel, run? surroundings .default false fuel w = some (result, v')) ∧
        v.files = v'.files ∧ v.server = v'.server := by
  intro c answers files surroundings w
  have hread : (surroundings.storage.read Settings.default.dataFile w.files).1 =
      .ok (Document.write c) := Memory.read_of_lookup rfl List.lookup_cons_self
  have hcanonical : c.Canonical := by simp [Context.Canonical, c, Service.Canonical, Service.new]
  have hl : (Store.load surroundings.storage Settings.default.dataFile w.files).1 = .ok (some c) := by
    rw [Store.load_fst, hread]
    exact Store.loaded_write hcanonical
  let makes := surroundings.Makes (Phase.request .default) (Phase.resume .default)
  let menu : Phase := .editing ⟨.new c, .menu⟩
  let action : Phase := .editing ⟨⟨c, .managing⟩, .action "A"⟩
  have hmenu : makes (.next (.loading true)) w [.read "data.json"] (.next menu) w :=
    makes_loaded hl true
  have hdialogue : ∃ rs w₁, makes (.next menu) w rs (.next (.drawing c)) w₁ ∧
      rs.all Request.ofUser = true := by
    have hhere : makes (.next menu) w [] (.next menu) w := .none
    -- the help and the listing lead back to the menu
    have hhelp : makes (.next menu) w _ (.next menu) _ := hhere.reply.reply
    have hlisting : makes (.next menu) w _ (.next menu) _ := hhelp.reply.reply
    have hservice : makes (.next menu) w _ (.next action) _ := hlisting.reply.reply
    -- a blank target and a choice that is no kind lead back to the service
    have htarget : makes (.next menu) w _ (.next action) _ := hservice.reply.reply.reply.reply
    have hkind : makes (.next menu) w _ (.next action) _ := htarget.reply.reply
    exact ⟨_, _, hkind.reply.reply, by decide +kernel⟩
  obtain ⟨rs, w₁, hdialogue, hofUser⟩ := hdialogue
  have hsession := hmenu.trans hdialogue
  have hunsaved : ∀ name content, .write name content ∉ [.read "data.json"] ++ rs := by
    intro name content hm
    rcases List.mem_append.mp hm with hm | hm
    · cases List.mem_singleton.mp hm
    · cases List.all_eq_true.mp hofUser _ hm
  obtain ⟨made, result, v, v', hrun, hrun', -, -, -, hfiles, hserver⟩ :=
    unsaved_agrees hl hsession hunsaved
  exact ⟨hl, _, result, v, v', hrun 0, ⟨_, hrun' 0⟩, hfiles, hserver⟩

end

end Generation

end ServiceDiagram

import ServiceDiagram.Proofs.Model.Names
import ServiceDiagram.Proofs.Storage.Documents
import ServiceDiagram.Session.Run
import ServiceDiagram.Surroundings.Script
import ServiceDiagram.Surroundings.Server

/-!
# What a chosen service is

The menu of services has one entry for each of them, but what is edited is the first service with
the name of the entry (`edit_entry_iff`).  That is the service of the entry if the names are pairwise
distinct, and not otherwise.  Adding services keeps names distinct, reading a document does not: one
with two services of one name is loaded as it is.
-/

namespace ServiceDiagram.Session

/-- the name of the entry is what every edit goes by -/
theorem afterService_entry {e : Editor} {i : Nat} {s : Service}
    (h : e.context.services[i]? = some s) : afterService e i = goTo e (.action s.name) := by
  have hname : e.context.serviceNames[i]? = some s.name := by
    rw [Context.serviceNames, List.getElem?_map, h]
    rfl
  rw [afterService, hname]

theorem edit_entry_iff {e : Editor} {i : Nat} {s : Service} (h : e.context.services[i]? = some s) :
    Context.IsFirst e.context.services i s ↔
      ∀ f, e.edit s.name f = (true, { e with context := { e.context with
        services := e.context.services.set i (f s) } }) := by
  rw [Context.isFirst_iff_changes h]
  refine forall_congr' fun f => ?_
  unfold Editor.edit Context.change?
  cases Context.changeFirst? s.name f e.context.services with
  | none => simp
  | some ss => simp

/-- **Every entry of the menu edits its own service exactly if the names are pairwise distinct.** -/
theorem choices_edit_iff (e : Editor) :
    e.context.serviceNames.Nodup ↔ ∀ i s, e.context.services[i]? = some s →
      afterService e i = goTo e (.action s.name) ∧ e.context.find? s.name = some s ∧
        ∀ f, e.edit s.name f = (true, { e with context := { e.context with
          services := e.context.services.set i (f s) } }) := by
  rw [Context.serviceNames, Context.nodup_names_iff]
  refine forall_congr' fun i => forall_congr' fun s => forall_congr' fun h => ?_
  constructor
  · intro hfirst
    exact ⟨afterService_entry h, hfirst.find?, (edit_entry_iff h).mp hfirst⟩
  · intro ⟨_, _, hedit⟩
    exact (edit_entry_iff h).mpr hedit

/-- **Names of a document are not checked.**  This one has a blank name and two services of one name.
It is loaded; in the session that follows the second service is chosen, and the first one is changed. -/
theorem load_duplicates :
    let c : Context := ⟨" ", .grpc, [.new "A", .new "A"]⟩
    let files := Memory.ofFiles [("data.json", Document.write c)]
    let answers : List Script.Answer :=
      [.position 2, .position 1, .position 1, .text "X", .position 3, .position 3]
    let s : Surroundings Script Memory Fetched :=
      ⟨Script.prompter, Memory.storage, Fetched.unreachable⟩
    (Store.load Memory.storage "data.json" files).1 = .ok (some c) ∧
      ¬ c.serviceNames.Nodup ∧ Text.isBlankText c.name ∧
      (turns s "data.json" (Script.new answers).fuel 2 0 (.new c) ⟨.new answers, files, .none⟩).2.1 =
        ⟨{ c with services := [⟨"A", none, some "X", []⟩, .new "A"] }, .closed⟩ := by
  intro c files answers s
  have hread : (Memory.storage.read "data.json" files).1 = .ok (Document.write c) :=
    Memory.read_of_lookup rfl List.lookup_cons_self
  refine ⟨?_, by decide, by decide, by decide +kernel⟩
  rw [Store.load_fst, hread]
  exact Store.loaded_write (by simp [Context.Canonical, c, Service.Canonical, Service.new])

end ServiceDiagram.Session

import ServiceDiagram.Toml.Reader

/-!
# What is assigned stays assigned

Nothing changes a string that a table holds: a key gets a value once, headers and dotted keys pass
through tables only, and no table goes away.  It is so for each way to change a table (`Keeps`), and from
these for each line, and for all lines of a document (`leaf?_readLines?`).

* `Table.leaf? outer inner t`   the value of a key in one of the tables of `t`;
* `Table.Keeps g`               `g` changes no string in a table, nor in one of its tables.
-/

namespace ServiceDiagram.Toml

variable {key outer inner : String} {path : List String} {x : String} {v : Value} {t t' : Table}
  {f : Option Value → Option Value} {g : Table → Option Table} {d d' : Draft} {cs rest : List Char}
  {fuel depth : Nat}

namespace Table

/-- the value of a key in one of the tables of a table -/
def leaf? (outer inner : String) (t : Table) : Option Value :=
  match t.lookup outer with
  | some (.table _ entries) => entries.lookup inner
  | _ => none

/-- **A change of tables that leaves strings as they are** -/
structure Keeps (g : Table → Option Table) : Prop where
  string : ∀ {t t' key x}, g t = some t' → t.lookup key = some (.string x) →
    t'.lookup key = some (.string x)
  leaf : ∀ {t t' outer inner x}, g t = some t' → t.leaf? outer inner = some (.string x) →
    t'.leaf? outer inner = some (.string x)

/-! ### one key changed -/

theorem lookup_alter?_self (h : t.alter? key f = some t') :
    ∃ v, f (t.lookup key) = some v ∧ t'.lookup key = some v := by
  induction t generalizing t' with
  | nil =>
    obtain ⟨v, hv, rfl⟩ := Option.map_eq_some_iff.mp h
    exact ⟨v, hv, List.lookup_cons_self⟩
  | cons entry t ih =>
    obtain ⟨k, w⟩ := entry
    rw [alter?] at h
    split at h
    · next heq =>
      obtain rfl : k = key := heq
      obtain ⟨v, hv, rfl⟩ := Option.map_eq_some_iff.mp h
      rw [List.lookup_cons_self, List.lookup_cons_self]
      exact ⟨v, hv, rfl⟩
    · next hne =>
      obtain ⟨rest, hrest, rfl⟩ := Option.map_eq_some_iff.mp h
      have hkey : (key == k) = false := beq_false_of_ne (Ne.symm hne)
      rw [List.lookup_cons, List.lookup_cons, hkey]
      exact ih hrest

theorem lookup_alter?_ne (h : t.alter? key f = some t') {other : String} (hne : other ≠ key) :
    t'.lookup other = t.lookup other := by
  have hother : (other == key) = false := beq_false_of_ne hne
  induction t generalizing t' with
  | nil =>
    obtain ⟨v, -, rfl⟩ := Option.map_eq_some_iff.mp h
    rw [List.lookup_cons, hother]
  | cons entry t ih =>
    obtain ⟨k, w⟩ := entry
    rw [alter?] at h
    split at h
    · next heq =>
      obtain rfl : k = key := heq
      obtain ⟨v, -, rfl⟩ := Option.map_eq_some_iff.mp h
      rw [List.lookup_cons, List.lookup_cons, hother]
    · obtain ⟨rest, hrest, rfl⟩ := Option.map_eq_some_iff.mp h
      rw [List.lookup_cons, List.lookup_cons, ih hrest]

/-- what a change of one key must do: refuse a string, and leave a table one with all its strings -/
theorem keeps_alter? (hstring : ∀ x, f (some (.string x)) = none)
    (htable : ∀ origin entries v, f (some (.table origin entries)) = some v →
      ∃ origin' entries', v = .table origin' entries' ∧
        ∀ key x, entries.lookup key = some (.string x) → entries'.lookup key = some (.string x)) :
    Keeps (alter? key f) where
  string := by
    intro t t' other x h hx
    by_cases hother : other = key
    · obtain ⟨v, hv, -⟩ := lookup_alter?_self h
      rw [← hother, hx, hstring] at hv
      cases hv
    · rw [lookup_alter?_ne h hother, hx]
  leaf := by
    intro t t' outer inner x h hx
    unfold leaf? at hx ⊢
    by_cases houter : outer = key
    · obtain ⟨v, hv, hv'⟩ := lookup_alter?_self h
      rw [houter] at hx ⊢
      split at hx
      · next origin entries hentries =>
        rw [hentries] at hv
        obtain ⟨origin', entries', rfl, hkept⟩ := htable origin entries v hv
        rw [hv']
        exact hkept inner x hx
      · cases hx
    · rw [lookup_alter?_ne h houter]
      exact hx

/-! ### all ways to change a table -/

theorem keeps_open? : Keeps (open? key) := by
  refine keeps_alter? (fun _ => rfl) fun origin entries v h => ?_
  cases origin with
  | implied =>
    obtain rfl := Option.some.inj h
    exact ⟨.header, entries, rfl, fun _ _ hx => hx⟩
  | header | dotted | inline => cases h

theorem keeps_append? : Keeps (append? key) :=
  keeps_alter? (fun _ => rfl) fun _ _ _ h => nomatch h

theorem keeps_insert? (v : Value) (path : List String) : Keeps (insert? v path) := by
  induction path with
  | nil => exact ⟨nofun, nofun⟩
  | cons key path ih =>
    cases path with
    | nil => exact keeps_alter? (fun _ => rfl) fun _ _ _ h => nomatch h
    | cons next path =>
      refine keeps_alter? (fun _ => rfl) fun origin entries w h => ?_
      cases origin with
      | dotted =>
        obtain ⟨entries', hentries, rfl⟩ := Option.map_eq_some_iff.mp h
        exact ⟨.dotted, entries', rfl, fun _ _ hx => ih.string hentries hx⟩
      | implied =>
        dsimp only at h
        split at h
        · cases h
        · obtain ⟨entries', hentries, rfl⟩ := Option.map_eq_some_iff.mp h
          exact ⟨.implied, entries', rfl, fun _ _ hx => ih.string hentries hx⟩
      | header | inline => cases h

/-- **A change keeps strings wherever it is made.** -/
theorem Keeps.underHeader? (hg : Keeps g) (path : List String) : Keeps (underHeader? g path) := by
  induction path with
  | nil => exact hg
  | cons key path ih =>
    refine keeps_alter? (fun _ => rfl) fun origin entries w h => ?_
    cases origin with
    | inline => cases h
    | header | implied | dotted =>
      obtain ⟨entries', hentries, rfl⟩ := Option.map_eq_some_iff.mp h
      exact ⟨_, entries', rfl, fun _ _ hx => ih.string hentries hx⟩

end Table

open Table

/-! ### all that is read -/

/-- **A line is one change of the tables.** -/
theorem exists_keeps_line? (h : line? d cs = some (d', rest)) :
    ∃ g, Keeps g ∧ g d.root = some d'.root := by
  unfold line? at h
  split at h
  · obtain ⟨⟨path, _⟩, -, h⟩ := Option.bind_eq_some_iff.mp h
    obtain ⟨_, -, h⟩ := Option.bind_eq_some_iff.mp h
    obtain ⟨_, -, h⟩ := Option.bind_eq_some_iff.mp h
    obtain ⟨⟨before, key⟩, -, h⟩ := Option.bind_eq_some_iff.mp h
    obtain ⟨root, hroot, h⟩ := Option.bind_eq_some_iff.mp h
    cases h
    exact ⟨_, keeps_append?.underHeader? before, hroot⟩
  · obtain ⟨⟨path, _⟩, -, h⟩ := Option.bind_eq_some_iff.mp h
    obtain ⟨_, -, h⟩ := Option.bind_eq_some_iff.mp h
    obtain ⟨⟨before, key⟩, -, h⟩ := Option.bind_eq_some_iff.mp h
    obtain ⟨root, hroot, h⟩ := Option.bind_eq_some_iff.mp h
    cases h
    exact ⟨_, keeps_open?.underHeader? before, hroot⟩
  · obtain ⟨⟨path, _⟩, -, h⟩ := Option.bind_eq_some_iff.mp h
    obtain ⟨_, -, h⟩ := Option.bind_eq_some_iff.mp h
    obtain ⟨⟨v, _⟩, -, h⟩ := Option.bind_eq_some_iff.mp h
    obtain ⟨root, hroot, h⟩ := Option.bind_eq_some_iff.mp h
    cases h
    exact ⟨_, (keeps_insert? v path).underHeader? d.path, hroot⟩

/-- **What is assigned stays assigned**, whatever lines follow. -/
theorem leaf?_readLines? (h : readLines? fuel d cs = some t)
    (hx : d.root.leaf? outer inner = some (.string x)) : t.leaf? outer inner = some (.string x) := by
  induction fuel generalizing d cs with
  | zero => cases h
  | succ fuel ih =>
    rw [readLines?] at h
    split at h
    · obtain rfl := Option.some.inj h
      exact hx
    · split at h
      · cases h
      · next d' rest hline =>
        split at h
        · cases h
        · obtain ⟨g, hg, hroot⟩ := exists_keeps_line? hline
          exact ih h (hg.leaf hroot hx)

theorem lookup_members? (h : members? fuel depth t cs = some (t', rest))
    (hx : t.lookup key = some (.string x)) : t'.lookup key = some (.string x) := by
  induction fuel generalizing t cs with
  | zero =>
    rw [members?.eq_def] at h
    cases h
  | succ fuel ih =>
    rw [members?.eq_def] at h
    dsimp only at h
    split at h
    · cases h
      exact hx
    · split at h
      · cases h
      · next path _ _ =>
        split at h
        · split at h
          · cases h
          · next v _ _ =>
            split at h
            · cases h
            · next t'' hinsert =>
              have hkept := (keeps_insert? v path).string hinsert hx
              split at h
              · exact ih h hkept
              · cases h
                exact hkept
              · cases h
        · cases h

end ServiceDiagram.Toml

import ServiceDiagram.Proofs.Surroundings.Paths
import ServiceDiagram.Surroundings.Disk

/-!
# Files below a base

A storage on a disk finds an entry in the directory to which its base leads, and nowhere else.  The
name of a single dot, which is the directory itself, can neither be read nor be written.

* `Disk.Entry d base names`     `names` is an entry of the directory to which `base` leads;
* `Disk.Beneath base d d'`      all that differs between two disks is such entries, and directories
                                that were made on the way to the base.
-/

namespace ServiceDiagram.Disk

variable {base name : String} {names other place front : List String} {d d' d'' : Disk}

/-! ### nodes -/

theorem lookup_replaced (names other : List String) (entry : Option Bytes)
    (entries : List (List String × Option Bytes)) :
    (entries.map fun e => if e.1 = names then (names, entry) else e).lookup other =
      if other = names then (entries.lookup names).map fun _ => entry else entries.lookup other := by
  induction entries with
  | nil =>
    split
    · rfl
    · rfl
  | cons e rest ih =>
    rw [List.map_cons]
    by_cases hfirst : e.1 = names
    · rw [if_pos hfirst, List.lookup_cons, List.lookup_cons, List.lookup_cons, ih, hfirst,
        beq_self_eq_true]
      by_cases hother : other = names
      · rw [if_pos hother, if_pos hother, hother, beq_self_eq_true]
        rfl
      · rw [if_neg hother, if_neg hother, beq_eq_false_iff_ne.mpr hother]
    · have hnames : (names == e.1) = false := beq_eq_false_iff_ne.mpr (Ne.symm hfirst)
      rw [if_neg hfirst, List.lookup_cons, List.lookup_cons, List.lookup_cons, ih, hnames]
      by_cases hother : other = names
      · rw [if_pos hother, if_pos hother, hother, hnames]
      · rw [if_neg hother, if_neg hother]

theorem lookup_put (d : Disk) (names other : List String) (entry : Option Bytes) :
    (d.put names entry).entries.lookup other =
      if other = names then some entry else d.entries.lookup other := by
  unfold put
  split
  · next hany =>
    obtain ⟨e, he, hnames⟩ := List.any_eq_true.mp hany
    have hsome : (d.entries.lookup names).isSome = true :=
      List.lookup_isSome_iff.mpr ⟨e, he, beq_iff_eq.mpr (of_decide_eq_true hnames).symm⟩
    obtain ⟨content, hcontent⟩ := Option.isSome_iff_exists.mp hsome
    rw [lookup_replaced, hcontent, Option.map_some]
  · next hany =>
    have hnone : d.entries.lookup names = none := by
      rw [List.lookup_eq_none_iff]
      intro e he
      rw [bne_iff_ne]
      intro hnames
      exact hany (List.any_eq_true.mpr ⟨e, he, decide_eq_true hnames.symm⟩)
    rw [List.lookup_append, List.lookup_cons, List.lookup_nil]
    by_cases hother : other = names
    · rw [if_pos hother, hother, hnone, beq_self_eq_true]
      rfl
    · rw [if_neg hother, beq_eq_false_iff_ne.mpr hother]
      exact Option.or_none

theorem node?_put_directory (d : Disk) (names : List String) :
    (d.put names none).node? names = some .directory := by
  unfold node?
  rw [lookup_put, if_pos rfl]
  split
  · rfl
  · rfl

theorem node?_put_file (d : Disk) (h : names ≠ []) (bytes : Bytes) :
    (d.put names (some bytes)).node? names = some (.file bytes) := by
  unfold node?
  rw [lookup_put, if_pos rfl, if_neg (by rwa [List.isEmpty_iff])]
  rfl

theorem node?_put_of_ne (h : other ≠ names) (entry : Option Bytes) :
    (d.put names entry).node? other = d.node? other := by
  unfold node?
  rw [lookup_put, if_neg h]

theorem isDirectory_iff : d.isDirectory names = true ↔ d.node? names = some .directory := by
  unfold isDirectory
  split
  · next h => exact ⟨fun _ => h, fun _ => rfl⟩
  · next h => exact ⟨nofun, fun hd => absurd hd h⟩

/-! ### what stays -/

/-- directories stay directories, and files stay files -/
structure Grows (d d' : Disk) : Prop where
  directory : ∀ {names}, d.node? names = some .directory → d'.node? names = some .directory
  file : ∀ {names bytes}, d.node? names = some (.file bytes) →
    ∃ bytes', d'.node? names = some (.file bytes')

theorem Grows.refl (d : Disk) : Grows d d := ⟨id, fun h => ⟨_, h⟩⟩

theorem Grows.trans (h : Grows d d') (h' : Grows d' d'') : Grows d d'' where
  directory := fun hd => h'.directory (h.directory hd)
  file := fun hf => by
    obtain ⟨bytes, hb⟩ := h.file hf
    exact h'.file hb

theorem Grows.isDirectory (h : Grows d d') (hd : d.isDirectory names = true) :
    d'.isDirectory names = true :=
  isDirectory_iff.mpr (h.directory (isDirectory_iff.mp hd))

theorem Grows.isSome (h : Grows d d') (hs : (d.node? names).isSome = true) :
    (d'.node? names).isSome = true := by
  obtain ⟨node, hnode⟩ := Option.isSome_iff_exists.mp hs
  cases node with
  | directory => rw [h.directory hnode, Option.isSome_some]
  | file bytes =>
    obtain ⟨bytes', hb⟩ := h.file hnode
    rw [hb, Option.isSome_some]

theorem grows_put_directory (h : d.node? names = none) : Grows d (d.put names none) where
  directory := fun {other} hd => by
    have hne : other ≠ names := fun he => by rw [he, h] at hd; cases hd
    rw [node?_put_of_ne hne, hd]
  file := fun {other bytes} hf => by
    have hne : other ≠ names := fun he => by rw [he, h] at hf; cases hf
    exact ⟨bytes, (node?_put_of_ne hne none).trans hf⟩

theorem grows_put_file (hne : names ≠ []) (h : d.isDirectory names = false) (bytes : Bytes) :
    Grows d (d.put names (some bytes)) where
  directory := fun {other} hd => by
    have hother : other ≠ names := fun he => by
      rw [he, ← isDirectory_iff, h] at hd
      cases hd
    rw [node?_put_of_ne hother, hd]
  file := fun {other bytes'} hf => by
    by_cases hother : other = names
    · rw [hother]
      exact ⟨bytes, node?_put_file d hne bytes⟩
    · exact ⟨bytes', (node?_put_of_ne hother _).trans hf⟩

/-- **Where one step leads** -/
theorem step_eq_ok_iff {place' : List String} :
    d.step place name = .ok place' ↔ d.isDirectory place = true ∧
      ((name = "." ∧ place' = place) ∨ (name = ".." ∧ place' = place.dropLast) ∨
        (isDots name = false ∧ isTooLong name = false ∧
          (d.node? (place ++ [name])).isSome = true ∧ place' = place ++ [name])) := by
  unfold Disk.step
  by_cases hplace : d.isDirectory place = true
  · rw [hplace, Bool.not_true, if_neg Bool.false_ne_true]
    have hdots : isDots name = (decide (name = ".") || decide (name = "..")) := rfl
    grind
  · rw [Bool.not_eq_true] at hplace
    rw [hplace]
    exact ⟨nofun, fun h => absurd h.1 Bool.false_ne_true⟩

theorem Grows.step (h : Grows d d') {place' : List String} (hs : d.step place name = .ok place') :
    d'.step place name = .ok place' := by
  obtain ⟨hplace, hdot | hup | ⟨hdots, hlong, hsome, hplace'⟩⟩ := step_eq_ok_iff.mp hs
  · exact step_eq_ok_iff.mpr ⟨h.isDirectory hplace, Or.inl hdot⟩
  · exact step_eq_ok_iff.mpr ⟨h.isDirectory hplace, Or.inr (Or.inl hup)⟩
  · exact step_eq_ok_iff.mpr
      ⟨h.isDirectory hplace, Or.inr (Or.inr ⟨hdots, hlong, h.isSome hsome, hplace'⟩)⟩

/-- **Names lead where they led.** -/
theorem Grows.walk (h : Grows d d') (hw : d.walk names = .ok place) : d'.walk names = .ok place := by
  unfold Disk.walk at hw ⊢
  generalize [] = here at hw ⊢
  induction names generalizing here with
  | nil => exact hw
  | cons name names ih =>
    rw [List.foldlM_cons] at hw ⊢
    cases hs : d.step here name with
    | error trouble =>
      rw [hs] at hw
      cases hw
    | ok there =>
      rw [hs] at hw
      rw [h.step hs]
      exact ih there hw

theorem walk_concat (d : Disk) (names : List String) (name : String) :
    d.walk (names ++ [name]) = d.walk names >>= fun place => d.step place name := by
  unfold Disk.walk
  rw [List.foldlM_append]
  simp only [List.foldlM_cons, List.foldlM_nil, bind_pure]

theorem enter_eq_ok_iff :
    d.enter names = .ok place ↔ d.walk names = .ok place ∧ d.isDirectory place = true := by
  unfold enter
  cases d.walk names with
  | error trouble => exact ⟨nofun, fun h => nomatch h.1⟩
  | ok place' =>
    show (if d.isDirectory place' = true then Except.ok place' else _) = _ ↔ _
    split
    · next hplace =>
      refine ⟨fun h => ?_, fun h => h.1⟩
      cases h
      exact ⟨rfl, hplace⟩
    · next hplace =>
      refine ⟨nofun, fun h => ?_⟩
      cases h.1
      exact absurd h.2 hplace

/-! ### what changes -/

/-- **An entry of the directory to which a base leads** -/
def Entry (d : Disk) (base : String) (names : List String) : Prop :=
  ∃ place name, names = place ++ [name] ∧ d.enter (Path.ofText base).names = .ok place ∧
    Path.IsEntry name ∧ name ≠ "."

def OnTheWay (d : Disk) (base : String) (names : List String) : Prop :=
  ∃ front, front <+: (Path.ofText base).steps ∧ d.enter front = .ok names

/-- **Disks that differ below a base only**: in files of the directory to which it leads, and in
directories that were made on the way to it. -/
structure Beneath (base : String) (d d' : Disk) : Prop extends Grows d d' where
  changed : ∀ {names}, d'.node? names ≠ d.node? names →
    (d'.Entry base names ∧ ∃ bytes, d'.node? names = some (.file bytes)) ∨
      (d.node? names = none ∧ d'.OnTheWay base names)

theorem Grows.enter (h : Grows d d') (he : d.enter names = .ok place) :
    d'.enter names = .ok place := by
  obtain ⟨hwalk, hplace⟩ := enter_eq_ok_iff.mp he
  exact enter_eq_ok_iff.mpr ⟨h.walk hwalk, h.isDirectory hplace⟩

theorem Entry.mono (h : Grows d d') (he : d.Entry base names) : d'.Entry base names := by
  obtain ⟨place, name, hnames, hplace, hname⟩ := he
  exact ⟨place, name, hnames, h.enter hplace, hname⟩

theorem OnTheWay.mono (h : Grows d d') (hw : d.OnTheWay base names) : d'.OnTheWay base names := by
  obtain ⟨front, hfront, hnames⟩ := hw
  exact ⟨front, hfront, h.enter hnames⟩

theorem Beneath.refl (base : String) (d : Disk) : Beneath base d d :=
  ⟨.refl d, fun h => absurd rfl h⟩

theorem Beneath.trans (h : Beneath base d d') (h' : Beneath base d' d'') : Beneath base d d'' where
  toGrows := h.toGrows.trans h'.toGrows
  changed := fun {names} hne => by
    by_cases hlater : d''.node? names = d'.node? names
    · rw [hlater] at hne ⊢
      rcases h.changed hne with ⟨hentry, hfile⟩ | ⟨hnone, hway⟩
      · exact Or.inl ⟨hentry.mono h'.toGrows, hfile⟩
      · exact Or.inr ⟨hnone, hway.mono h'.toGrows⟩
    · rcases h'.changed hlater with hfile | ⟨hnone, hway⟩
      · exact Or.inl hfile
      · refine Or.inr ⟨?_, hway⟩
        cases hfirst : d.node? names with
        | none => rfl
        | some node =>
          have hsome := h.toGrows.isSome (Option.isSome_iff_exists.mpr ⟨node, hfirst⟩)
          rw [hnone] at hsome
          cases hsome

theorem beneath_put_directory (hfront : front ++ [name] <+: (Path.ofText base).steps)
    (hplace : d.enter front = .ok place) (hdots : isDots name = false)
    (hlong : isTooLong name = false) (hnone : d.node? (place ++ [name]) = none) :
    Beneath base d (d.put (place ++ [name]) none) := by
  have hgrows : Grows d (d.put (place ++ [name]) none) := grows_put_directory hnone
  obtain ⟨hwalk, hdirectory⟩ := enter_eq_ok_iff.mp (hgrows.enter hplace)
  refine ⟨hgrows, fun {names} hne => ?_⟩
  have hnames : names = place ++ [name] := by
    by_contra hother
    exact hne (node?_put_of_ne hother none)
  have hnew := node?_put_directory d (place ++ [name])
  rw [hnames]
  refine Or.inr ⟨hnone, front ++ [name], hfront, enter_eq_ok_iff.mpr ⟨?_, isDirectory_iff.mpr hnew⟩⟩
  rw [walk_concat, hwalk]
  refine step_eq_ok_iff.mpr ⟨hdirectory, Or.inr (Or.inr ⟨hdots, hlong, ?_, rfl⟩)⟩
  rw [hnew, Option.isSome_some]

theorem beneath_put_file (hplace : d.enter (Path.ofText base).names = .ok place)
    (hname : Path.IsEntry name) (hdot : name ≠ ".") (hfile : d.isDirectory (place ++ [name]) = false)
    (bytes : Bytes) : Beneath base d (d.put (place ++ [name]) (some bytes)) := by
  have hconcat : place ++ [name] ≠ [] := List.append_ne_nil_of_right_ne_nil _ (List.cons_ne_nil _ _)
  have hgrows : Grows d (d.put (place ++ [name]) (some bytes)) :=
    grows_put_file hconcat hfile bytes
  refine ⟨hgrows, fun {names} hne => ?_⟩
  have hnames : names = place ++ [name] := by
    by_contra hother
    exact hne (node?_put_of_ne hother _)
  rw [hnames]
  exact Or.inl ⟨⟨place, name, rfl, hgrows.enter hplace, hname, hdot⟩, bytes,
    node?_put_file d hconcat bytes⟩

/-! ### making directories -/

theorem makeDirectory_beneath (hfront : front ++ [name] <+: (Path.ofText base).steps)
    (h : d.makeDirectory front name = .ok d') : Beneath base d d' := by
  unfold makeDirectory at h
  cases hplace : d.enter front with
  | error trouble =>
    rw [hplace] at h
    cases h
  | ok place =>
    rw [hplace] at h
    simp only [bind, Except.bind, throw, throwThe, MonadExceptOf.throw, pure, Except.pure] at h
    split at h
    · cases h
    · next hdots =>
      split at h
      · cases h
      · next hlong =>
        split at h
        · cases h
        · next hnone =>
          cases h
          rw [Bool.not_eq_true] at hdots hlong
          rw [Option.not_isSome_iff_eq_none] at hnone
          exact beneath_put_directory hfront hplace hdots hlong hnone

/-- **Making the directories around a base changes nothing else.** -/
theorem makeDirectories_beneath {outward : List String}
    (h : outward.reverse <+: (Path.ofText base).steps) :
    Beneath base d (d.makeDirectories outward).2 := by
  induction outward generalizing d with
  | nil => exact .refl base d
  | cons name outer ih =>
    rw [List.reverse_cons] at h
    have houter : outer.reverse <+: (Path.ofText base).steps := (List.prefix_append _ _).trans h
    have hmake : ∀ {d d'}, d.makeDirectory outer.reverse name = .ok d' → Beneath base d d' :=
      makeDirectory_beneath h
    rw [makeDirectories]
    split
    · next d' hmade => exact hmake hmade
    · have hway := ih (d := d) houter
      split
      · next trouble d₁ hfails =>
        rw [hfails] at hway
        exact hway
      · next d₁ hmade =>
        rw [hmade] at hway
        split
        · next d' hlast => exact hway.trans (hmake hlast)
        · exact hway
    · exact .refl base d

/-! ### files -/

theorem writeFile_beneath (hname : Path.IsEntry name) {bytes : Bytes}
    (h : d.writeFile (.ofText (Path.join base name)) bytes = .ok d') : Beneath base d d' := by
  rw [Path.ofText_join base hname] at h
  unfold writeFile at h
  simp only [List.getLast?_concat, List.dropLast_concat] at h
  cases hplace : d.enter (Path.ofText base).names with
  | error trouble =>
    rw [hplace] at h
    cases h
  | ok place =>
    rw [hplace] at h
    simp only [bind, Except.bind, throw, throwThe, MonadExceptOf.throw, pure, Except.pure] at h
    split at h
    · cases h
    · next hdots =>
      split at h
      · cases h
      · split at h
        · cases h
        · next hfile =>
          cases h
          rw [Bool.not_eq_true] at hfile
          refine beneath_put_file hplace hname (fun hdot => hdots (Or.inl ?_)) hfile bytes
          rw [hdot]
          rfl

/-- **Writing an entry changes nothing but what is below the base.** -/
theorem write_beneath (base : String) (hname : Path.IsEntry name) (bytes : Bytes) (d : Disk) :
    Beneath base d ((storage base).write name bytes d).2 := by
  have houter : (Path.ofText (Path.join base name)).outer <+: (Path.ofText base).steps := by
    rw [Path.ofText_join base hname]
    exact Path.outer_isPrefix ..
  have hway : Beneath base d (if (Path.ofText (Path.join base name)).outer.any hasNul then
      (Except.error Trouble.nul, d) else
        d.makeDirectories (Path.ofText (Path.join base name)).outer.reverse).2 := by
    split
    · exact .refl base d
    · exact makeDirectories_beneath (by rwa [List.reverse_reverse])
  show Beneath base d (d.write (Path.join base name) bytes).2
  unfold write
  simp only
  split
  · exact hway
  · split
    · exact hway
    · next d₂ hwritten =>
      split at hwritten
      · cases hwritten
      · exact hway.trans (writeFile_beneath hname hwritten)

theorem content_eq_ok {p : Path} {bytes : Bytes} (h : d.content p = .ok bytes) :
    ∃ place, d.walk p.names = .ok place ∧ d.node? place = some (.file bytes) := by
  unfold content at h
  simp only [bind, Except.bind, throw, throwThe, MonadExceptOf.throw, pure, Except.pure] at h
  split at h
  · cases h
  · cases hplace : d.walk p.names with
    | error trouble =>
      rw [hplace] at h
      cases h
    | ok place =>
      rw [hplace] at h
      refine ⟨place, rfl, ?_⟩
      cases hnode : d.node? place with
      | none =>
        simp only [hnode] at h
        cases h
      | some node =>
        cases node with
        | directory =>
          simp only [hnode] at h
          cases h
        | file content =>
          simp only [hnode] at h
          split at h
          · cases h
          · cases h
            rfl

theorem content_of_read {path : String} {bytes : Bytes} (h : d.read path = .ok bytes) :
    d.content (.ofText path) = .ok bytes := by
  unfold read at h
  split at h
  · cases h
  · cases hcontent : d.content (.ofText path) with
    | error trouble =>
      rw [hcontent] at h
      cases h
    | ok content =>
      rw [hcontent] at h
      cases h
      rfl

/-- **What is read of an entry is the content of a file in the directory of the base.** -/
theorem read_entry (hname : Path.IsEntry name) {bytes : Bytes}
    (h : ((storage base).read name d).1 = .ok bytes) :
    ∃ place, d.enter (Path.ofText base).names = .ok place ∧
      d.node? (place ++ [name]) = some (.file bytes) := by
  obtain ⟨place', hwalk, hnode⟩ := content_eq_ok (content_of_read h)
  rw [Path.ofText_join base hname] at hwalk
  simp only [walk_concat] at hwalk
  cases hplace : d.walk (Path.ofText base).names with
  | error trouble =>
    rw [hplace] at hwalk
    cases hwalk
  | ok place =>
    rw [hplace] at hwalk
    obtain ⟨hdirectory, ⟨-, rfl⟩ | ⟨hup, -⟩ | ⟨-, -, -, rfl⟩⟩ := step_eq_ok_iff.mp hwalk
    · rw [isDirectory_iff.mp hdirectory] at hnode
      cases hnode
    · exact absurd hup hname.up
    · exact ⟨place, enter_eq_ok_iff.mpr ⟨hplace, hdirectory⟩, hnode⟩

end ServiceDiagram.Disk

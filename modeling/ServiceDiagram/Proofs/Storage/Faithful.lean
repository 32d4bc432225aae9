import ServiceDiagram.Surroundings.Memory

/-!
# Faithful storages

What a program relies on when it keeps a file: what was written last is read back, a write that
fails changes nothing, and reading does not change what is read.  `Storage.Faithful storage sound`
says so of the states that are `sound`; reads and writes lead from sound states to sound ones.  Any
read and any write may fail.  `Storage.Separate storage sound` says that files do not share their contents:
writing one leaves the others as they are.

`Memory.faithful`, `Memory.separate`: files in memory are like this as long as reads do not fail.
-/

namespace ServiceDiagram

/-- **A storage that can be relied on.** -/
structure Storage.Faithful {σ : Type} (storage : Storage σ) (sound : σ → Prop) : Prop where
  sound_read : ∀ {files}, sound files → ∀ name, sound (storage.read name files).2
  sound_write : ∀ {files}, sound files → ∀ name content, sound (storage.write name content files).2
  /-- reading does not change what is read -/
  read_read : ∀ {files}, sound files → ∀ name other,
    (storage.read other (storage.read name files).2).1 = (storage.read other files).1
  /-- what was written is read back -/
  read_written : ∀ {files}, sound files → ∀ {name content},
    (storage.write name content files).1 = .ok () →
      (storage.read name (storage.write name content files).2).1 = .ok content
  /-- a write that fails changes nothing -/
  read_failed : ∀ {files}, sound files → ∀ {name content fault},
    (storage.write name content files).1 = .error fault → ∀ other,
      (storage.read other (storage.write name content files).2).1 = (storage.read other files).1

/-- **A storage whose files are apart**: a write changes nothing but the file it names. -/
def Storage.Separate {σ : Type} (storage : Storage σ) (sound : σ → Prop) : Prop :=
  ∀ {files}, sound files → ∀ {name content}, (storage.write name content files).1 = .ok () →
    ∀ {other}, other ≠ name →
      (storage.read other (storage.write name content files).2).1 = (storage.read other files).1

theorem Storage.Faithful.read_rewritten {σ : Type} {storage : Storage σ} {sound : σ → Prop}
    (hs : storage.Faithful sound) (hsep : storage.Separate sound) {files : σ} (hf : sound files)
    {name : String} {content : Bytes} (hr : (storage.read name files).1 = .ok content)
    (hok : (storage.write name content files).1 = .ok ()) (other : String) :
    (storage.read other (storage.write name content files).2).1 = (storage.read other files).1 := by
  by_cases h : other = name
  · rw [h, hs.read_written hf hok, hr]
  · exact hsep hf hok h

/-- what reads and writes keep may be asked of the sound states as well -/
theorem Storage.Faithful.and {σ : Type} {storage : Storage σ} {sound : σ → Prop}
    (hs : storage.Faithful sound) {P : σ → Prop}
    (hread : ∀ {files}, P files → ∀ name, P (storage.read name files).2)
    (hwrite : ∀ {files}, P files → ∀ name content, P (storage.write name content files).2) :
    storage.Faithful fun files => sound files ∧ P files where
  sound_read := fun h name => ⟨hs.sound_read h.1 name, hread h.2 name⟩
  sound_write := fun h name content => ⟨hs.sound_write h.1 name content, hwrite h.2 name content⟩
  read_read := fun h => hs.read_read h.1
  read_written := fun h => hs.read_written h.1
  read_failed := fun h => hs.read_failed h.1

theorem Storage.Faithful.sound_reply {π σ φ : Type} {s : Surroundings π σ φ} {sound : σ → Prop}
    (hs : s.storage.Faithful sound) {w : World π σ φ} (hw : sound w.files) (r : Request) :
    sound (s.reply w r).2.files := by
  cases r with
  | read name => exact hs.sound_read hw name
  | write name content => exact hs.sound_write hw name content
  | _ => exact hw

namespace Memory
variable {name : String} {content : Bytes} {m : Memory}

theorem lookup_put (name : String) (content : Bytes) (files : List (String × Bytes)) :
    (put name content files).lookup name = some content := by
  induction files with
  | nil =>
    show [(name, content)].lookup name = _
    rw [List.lookup_cons_self]
  | cons file rest ih =>
    rw [put]
    split
    · rw [List.lookup_cons_self]
    · next h =>
      rw [List.lookup_cons, beq_eq_false_iff_ne.mpr (Ne.symm h)]
      exact ih

theorem lookup_put_of_ne {other : String} (h : other ≠ name) (content : Bytes)
    (files : List (String × Bytes)) : (put name content files).lookup other = files.lookup other := by
  induction files with
  | nil =>
    show [(name, content)].lookup other = _
    rw [List.lookup_cons, beq_eq_false_iff_ne.mpr h]
  | cons file rest ih =>
    rw [put]
    split
    · next hf =>
      have hne : other ≠ file.1 := fun e => h (e.trans hf)
      rw [List.lookup_cons, List.lookup_cons, beq_eq_false_iff_ne.mpr h,
        beq_eq_false_iff_ne.mpr hne]
    · rw [List.lookup_cons, List.lookup_cons, ih]

theorem read_snd (name : String) (m : Memory) : (read name m).2 = m := by
  unfold read
  split
  · rfl
  · split <;> rfl

theorem read_fst (h : m.failReads = false) (name : String) :
    (read name m).1 = match m.files.lookup name with
      | some content => .ok content
      | none => .error (.access .notFound ("File not found: " ++ name)) := by
  unfold read content?
  rw [if_neg (by rw [h]; exact Bool.false_ne_true)]
  cases m.files.lookup name <;> rfl

theorem read_of_lookup (h : m.failReads = false) (hf : m.files.lookup name = some content) :
    (storage.read name m).1 = .ok content := by
  show (read name m).1 = _
  rw [read_fst h, hf]

theorem write_failReads (name : String) (content : Bytes) (m : Memory) :
    (write name content m).2.failReads = m.failReads := by
  unfold write
  simp only
  split <;> rfl

theorem write_failWrite (name : String) (content : Bytes) (m : Memory) :
    (write name content m).2.failWrite = m.failWrite := by
  unfold write
  simp only
  split <;> rfl

theorem write_ok (h : (write name content m).1 = .ok ()) :
    (write name content m).2.files = put name content m.files := by
  unfold write at h ⊢
  simp only at h ⊢
  split
  · next hf => rw [if_pos hf] at h; cases h
  · rfl

theorem write_error {fault : Fault} (h : (write name content m).1 = .error fault) :
    (write name content m).2.files = m.files := by
  unfold write at h ⊢
  simp only at h ⊢
  split
  · rfl
  · next hf => rw [if_neg hf] at h; cases h

/-- **Files in memory are faithful if reads do not fail**, whichever writes do. -/
theorem faithful : storage.Faithful fun m => m.failReads = false where
  sound_read := by
    intro m h name
    show (read name m).2.failReads = false
    rw [read_snd, h]
  sound_write := by
    intro m h name content
    show (write name content m).2.failReads = false
    rw [write_failReads, h]
  read_read := by
    intro m _ name other
    show (read other (read name m).2).1 = _
    rw [read_snd]
    rfl
  read_written := by
    intro m h name content hw
    have hs : (write name content m).2.failReads = false := by rw [write_failReads, h]
    show (read name (write name content m).2).1 = _
    rw [read_fst hs, write_ok hw, lookup_put]
  read_failed := by
    intro m h name content fault hw other
    have hs : (write name content m).2.failReads = false := by rw [write_failReads, h]
    show (read other (write name content m).2).1 = (read other m).1
    rw [read_fst hs, read_fst h, write_error hw]

theorem faithful_reliable :
    storage.Faithful fun m => m.failReads = false ∧ ∀ n, m.failWrite n = false := by
  refine faithful.and (fun {m} h name => ?_) fun {m} h name content => ?_
  · show ∀ n, (read name m).2.failWrite n = false
    rw [read_snd]
    exact h
  · show ∀ n, (write name content m).2.failWrite n = false
    rw [write_failWrite]
    exact h

theorem write_reliable (h : ∀ n, m.failWrite n = false) (name : String) (content : Bytes) :
    (storage.write name content m).1 = .ok () := by
  show (write name content m).1 = .ok ()
  unfold write
  simp only [h, Bool.false_eq_true, if_false]

/-- **Files in memory are apart.** -/
theorem separate : storage.Separate fun m => m.failReads = false := by
  intro m h name content hw other hne
  have hs : (write name content m).2.failReads = false := by rw [write_failReads, h]
  show (read other (write name content m).2).1 = (read other m).1
  rw [read_fst hs, read_fst h, write_ok hw, lookup_put_of_ne hne]

end Memory

end ServiceDiagram

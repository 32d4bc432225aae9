import ServiceDiagram.Proofs.Settings.Placeholders
import ServiceDiagram.Proofs.Toml.Assignments
import ServiceDiagram.Settings.Reader

/-!
# Variables in settings

The value of a variable is put between the quotes of a string before the document is read, and nothing
is escaped.  So a setting gets the value as it is if a string may hold it as it is, and only then
(`variable_read`): a quote in the value ends the string, a backslash starts an escape, and a string on
one line has no line end.

* `TextSetting`               a setting that is a text, with its table and its key;
* `Assigned env x name doc`   a document that assigns a variable to a setting, and nothing else.
-/

namespace ServiceDiagram.Settings

open Toml (Value Table IsDocument IsPlain)

/-! ### settings that are texts -/

/-- **The settings that are texts** -/
inductive TextSetting where
  | dir
  | dataFile
  | diagramFile
  | server

namespace TextSetting

def table : TextSetting → String
  | .dir | .dataFile | .diagramFile => "output"
  | .server => "renderer"

def key : TextSetting → String
  | .dir => "dir"
  | .dataFile => "data_file"
  | .diagramFile => "diagram_file"
  | .server => "server"

def get (s : Settings) : TextSetting → String
  | .dir => s.dir
  | .dataFile => s.dataFile
  | .diagramFile => s.diagramFile
  | .server => s.server

theorem table_eq (x : TextSetting) : x.table = "output" ∨ x.table = "renderer" := by
  cases x with
  | dir | dataFile | diagramFile => exact Or.inl rfl
  | server => exact Or.inr rfl

def set (s : Settings) (v : String) : TextSetting → Settings
  | .dir => { s with dir := v }
  | .dataFile => { s with dataFile := v }
  | .diagramFile => { s with diagramFile := v }
  | .server => { s with server := v }

end TextSetting

variable {s s' : Settings} {t : Table} {keys : List String} {key value : String} {v : Value}
  {origin : Toml.Origin} {x : TextSetting}

theorem ofTable?_single (x : TextSetting) (origin : Toml.Origin) (value : String) :
    ofTable? [(x.table, .table origin [(x.key, .string value)])] = some (x.set .default value) := by
  cases x <;> rfl

/-! ### what tables give -/

theorem eq_of_fields? {t' : Table} (h : fields? keys (.table origin t) = some t') : t' = t := by
  rw [fields?] at h
  split at h
  · exact (Option.some.inj h).symm
  · cases h

theorem field?_of_lookup {α : Type} {read : Value → Option α} (h : t.lookup key = some v)
    (default : α) : field? read key default t = read v := by
  rw [field?, h]

theorem output?_eq (h : output? s (.table origin t) = some s') (hx : x.table = "output") :
    field? string? x.key (x.get s) t = some (x.get s') := by
  obtain ⟨t', ht, h⟩ := Option.bind_eq_some_iff.mp h
  obtain ⟨dir, hdir, h⟩ := Option.bind_eq_some_iff.mp h
  obtain ⟨dataFile, hdata, h⟩ := Option.bind_eq_some_iff.mp h
  obtain ⟨diagramFile, hdiagram, h⟩ := Option.bind_eq_some_iff.mp h
  cases h
  obtain rfl := eq_of_fields? ht
  cases x with
  | dir => exact hdir
  | dataFile => exact hdata
  | diagramFile => exact hdiagram
  | server => exact absurd hx (by decide)

theorem renderer?_eq (h : renderer? s (.table origin t) = some s') (hx : x.table = "renderer") :
    field? string? x.key (x.get s) t = some (x.get s') := by
  obtain ⟨t', ht, h⟩ := Option.bind_eq_some_iff.mp h
  obtain ⟨server, hserver, h⟩ := Option.bind_eq_some_iff.mp h
  obtain ⟨_, -, h⟩ := Option.bind_eq_some_iff.mp h
  obtain ⟨_, -, h⟩ := Option.bind_eq_some_iff.mp h
  cases h
  obtain rfl := eq_of_fields? ht
  cases x with
  | dir | dataFile | diagramFile => exact absurd hx (by decide)
  | server => exact hserver

theorem get_of_renderer? (h : field? (renderer? s) "renderer" s t = some s') (hx : x.table = "output") :
    x.get s' = x.get s := by
  have hsame : s'.dir = s.dir ∧ s'.dataFile = s.dataFile ∧ s'.diagramFile = s.diagramFile := by
    unfold field? at h
    split at h
    · obtain ⟨_, -, h⟩ := Option.bind_eq_some_iff.mp h
      obtain ⟨_, -, h⟩ := Option.bind_eq_some_iff.mp h
      obtain ⟨_, -, h⟩ := Option.bind_eq_some_iff.mp h
      obtain ⟨_, -, h⟩ := Option.bind_eq_some_iff.mp h
      cases h
      exact ⟨rfl, rfl, rfl⟩
    · cases h
      exact ⟨rfl, rfl, rfl⟩
  cases x with
  | dir => exact hsame.1
  | dataFile => exact hsame.2.1
  | diagramFile => exact hsame.2.2
  | server => exact absurd hx (by decide)

/-- **A string that the table has for a setting is the setting.** -/
theorem get_of_ofTable? (h : ofTable? t = some s)
    (hleaf : t.leaf? x.table x.key = some (.string value)) : x.get s = value := by
  obtain ⟨t', ht, h⟩ := Option.bind_eq_some_iff.mp h
  obtain ⟨s₁, houtput, hrenderer⟩ := Option.bind_eq_some_iff.mp h
  obtain rfl := eq_of_fields? ht
  unfold Table.leaf? at hleaf
  split at hleaf
  · next origin entries hentries =>
    have hstring : ∀ default, field? string? x.key default entries = some value := fun default =>
      field?_of_lookup hleaf default
    rcases x.table_eq with hx | hx
    · rw [hx] at hentries
      rw [field?_of_lookup hentries] at houtput
      have hread := output?_eq houtput hx
      exact (get_of_renderer? hrenderer hx).trans (Option.some.inj (hread.symm.trans (hstring _)))
    · rw [hx] at hentries
      rw [field?_of_lookup hentries] at hrenderer
      exact Option.some.inj ((renderer?_eq hrenderer hx).symm.trans (hstring _))
  · cases hleaf

/-! ### documents with a variable -/

/-- **A document that assigns a variable to a setting**, and nothing else: one of its placeholders is
all that stands between the quotes, and around the quotes, with whatever placeholders there are filled,
it is a document that assigns one string. -/
def Assigned (env : Environment) (x : TextSetting) (name : List Char) (doc : String) : Prop :=
  ∃ ps qs front behind, ReadsAs doc.toList (ps ++ .name name :: qs) ∧
    ps.flatMap (Piece.filled env) = front ++ ['"'] ∧
      qs.flatMap (Piece.filled env) = '"' :: behind ∧ IsDocument x.table x.key front behind

variable {env : Environment} {name front behind : List Char} {doc : String}

theorem Assigned.exists_filled (h : Assigned env x name doc)
    (hvalue : env.value? name = some value.toList) :
    ∃ front behind, IsDocument x.table x.key front behind ∧
      filled env doc = String.ofList (front ++ '"' :: (value.toList ++ '"' :: behind)) := by
  obtain ⟨ps, qs, front, behind, hreads, hfront, hbehind, hdoc⟩ := h
  refine ⟨front, behind, hdoc, ?_⟩
  have hname : Piece.filled env (.name name) = value.toList := by
    show (env.value? name).getD (placeholder name) = value.toList
    rw [hvalue]
    rfl
  rw [filled, fill_eq hreads, List.flatMap_append, List.flatMap_cons, hfront, hname, hbehind,
    List.append_assoc, List.singleton_append]

/-- where no dollar sign stands no placeholder starts -/
theorem readsAs_append {cs rest : List Char} {ps : List Piece} (hcs : '$' ∉ cs) (hrest : ReadsAs rest ps) :
    ReadsAs (cs ++ rest) (cs.map Piece.char ++ ps) := by
  induction cs with
  | nil => exact hrest
  | cons c cs ih =>
    rw [List.mem_cons, not_or] at hcs
    refine .char ?_ (ih hcs.2)
    rintro w ps' ⟨n, -, rfl, -⟩ ⟨more, hmore⟩
    exact hcs.1 (List.cons.inj hmore).1

theorem filled_chars (env : Environment) (cs : List Char) :
    (cs.map Piece.char).flatMap (Piece.filled env) = cs := by
  rw [List.flatMap_map]
  exact List.flatMap_singleton' cs

theorem assigned_of_only (hname : IsName name) (hdoc : IsDocument x.table x.key front behind)
    (hfront : '$' ∉ front) (hbehind : '$' ∉ behind)
    (htext : doc.toList = front ++ '"' :: (placeholder name ++ '"' :: behind)) (env : Environment) :
    Assigned env x name doc := by
  have hquote : '$' ∉ front ++ ['"'] := by
    simpa using hfront
  have hrest : '$' ∉ '"' :: behind := by
    simpa using hbehind
  have hreads : ReadsAs ('"' :: behind) (('"' :: behind).map Piece.char) := by
    have h := readsAs_append hrest .nil
    rwa [List.append_nil, List.append_nil] at h
  refine ⟨(front ++ ['"']).map .char, ('"' :: behind).map .char, front, behind, ?_, filled_chars _ _,
    filled_chars _ _, hdoc⟩
  have hwhole : doc.toList = (front ++ ['"']) ++ (placeholder name ++ '"' :: behind) := by
    rw [htext, List.append_assoc, List.singleton_append]
  rw [hwhole]
  exact readsAs_append hquote (.word ⟨name, hname, rfl, rfl⟩ hreads)

/-! ### what is read -/

theorem read_eq_ok_iff : read env doc = .ok s ↔ (Toml.read? (filled env doc)).bind ofTable? = some s := by
  unfold read
  cases (Toml.read? (filled env doc)).bind ofTable? with
  | none => exact ⟨nofun, nofun⟩
  | some s' => exact ⟨fun h => by cases h; rfl, fun h => by cases h; rfl⟩

/-- **A setting gets the value of a variable as it is if a string may hold it as it is**, and then all
other settings are as by default; a value with any other character in it never reaches the setting. -/
theorem variable_read (h : Assigned env x name doc) (hvalue : env.value? name = some value.toList) :
    (IsPlain value.toList → read env doc = .ok (x.set .default value)) ∧
      ∀ s, read env doc = .ok s → x.get s = value → IsPlain value.toList := by
  obtain ⟨front, behind, hdoc, hfilled⟩ := h.exists_filled hvalue
  constructor
  · intro hplain
    obtain ⟨origin, hread⟩ := hdoc.read?_plain hplain
    rw [read_eq_ok_iff, hfilled, hread, Option.bind_some, String.ofList_toList]
    exact ofTable?_single x origin value
  · intro s hs hget
    rw [read_eq_ok_iff, hfilled] at hs
    obtain ⟨t, hread, htable⟩ := Option.bind_eq_some_iff.mp hs
    obtain ⟨held, rest, hstring, hleaf⟩ := hdoc.leaf?_read? hread
    have hheld : held = String.ofList value.toList := by
      rw [String.ofList_toList, ← hget]
      exact (get_of_ofTable? htable hleaf).symm
    rw [hheld] at hstring
    exact Toml.isPlain_of_string? hdoc.isQuiet hstring

/-! ### documents with a header -/

theorem keySpells_toList {word : String} (hne : word.toList ≠ [])
    (hbare : word.toList.all Toml.isBare = true) : Toml.KeySpells word word.toList := by
  have h := Toml.KeySpells.bare hne (List.all_eq_true.mp hbare)
  rwa [String.ofList_toList] at h

theorem isDocument_header (x : TextSetting) :
    IsDocument x.table x.key
      ('[' :: (x.table.toList ++ (']' :: '\n' :: (x.key.toList ++ " = ".toList)))) ['\n'] := by
  have htable : Toml.KeySpells x.table x.table.toList :=
    keySpells_toList (by cases x <;> decide) (by cases x <;> decide)
  have hkey : Toml.KeySpells x.key x.key.toList :=
    keySpells_toList (by cases x <;> decide) (by cases x <;> decide)
  have hblank : Toml.AreBlank [' '] := by
    intro c hc
    obtain rfl := List.mem_singleton.mp hc
    rfl
  have hline : Toml.IsLineTail ['\n'] :=
    ⟨[], [], ['\n'], [], Toml.areBlank_nil, Or.inl rfl, Or.inl rfl, Toml.isSpace_nil, rfl⟩
  have hentry : Toml.IsEntry [x.key] (x.key.toList ++ " = ".toList) :=
    ⟨x.key.toList, [' '], [' '], .last hkey, hblank, hblank, rfl⟩
  have hrest : Toml.IsRest ['\n'] :=
    ⟨['\n'], [], [], .line Toml.areBlank_nil (Or.inl rfl) (Or.inl rfl) .nil, Toml.areBlank_nil,
      Or.inl rfl, rfl⟩
  exact ⟨[], _, Or.inl rfl, .header Toml.isSpace_nil Toml.areBlank_nil htable Toml.areBlank_nil hline
    hentry hrest, rfl⟩

/-- the address of a server -/
theorem variable_read_server :
    read [("SERVER", "http://localhost:8080/plantuml")]
        "[renderer]\nserver = \"$\x7bSERVER\x7d\"\n" =
      .ok (TextSetting.server.set .default "http://localhost:8080/plantuml") := by
  have hassigned : Assigned [("SERVER", "http://localhost:8080/plantuml")] .server "SERVER".toList
      "[renderer]\nserver = \"$\x7bSERVER\x7d\"\n" :=
    assigned_of_only (by decide) (isDocument_header .server) (by decide) (by decide) (by decide) _
  exact (variable_read hassigned (by decide)).1 (by decide)

/-- the path of a directory with a backslash: no escape starts with the letter behind it -/
theorem variable_unread :
    let env : Environment := [("DIR", "C:\\data")]
    let doc := "[output]\ndir = \"$\x7bDIR\x7d\"\n"
    Assigned env .dir "DIR".toList doc ∧ env.value? "DIR".toList = some "C:\\data".toList ∧
      (read env doc).toOption = none := by
  intro env doc
  refine ⟨?_, by decide, by decide +kernel⟩
  exact assigned_of_only (by decide) (isDocument_header .dir) (by decide) (by decide) (by decide) _

end ServiceDiagram.Settings

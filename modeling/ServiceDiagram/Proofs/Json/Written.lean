import ServiceDiagram.Json.Write
import ServiceDiagram.Proofs.Json.Grammar

/-!
# What is written spells its value

The writer makes a text bottom up and without blanks.  Whatever characters a string has, `writeText`
spells it (`spells_writeText`), and lists and objects of spellings are spellings
(`spells_writeList`, `spells_writeObject`); so a written text has one value at least.  -/

namespace ServiceDiagram.Json

/-! ### strings -/

theorem hexDigits_control : ∀ n < 0x20, HexDigits n (Text.hexDigits 4 n) := by
  unfold HexDigits
  decide

theorem spellsChar_escapeChar (c : Char) : SpellsChar c (escapeChar c) := by
  unfold escapeChar
  by_cases hq : c = '"'
  · subst hq
    exact .letter (by decide)
  rw [if_neg hq]
  by_cases hb : c = '\\'
  · subst hb
    exact .letter (by decide)
  rw [if_neg hb]
  -- the five control characters that have a letter
  by_cases h : c ∈ ['\x08', '\x0c', '\n', '\r', '\t']
  · simp only [List.mem_cons, List.not_mem_nil, or_false] at h
    rcases h with rfl | rfl | rfl | rfl | rfl <;> exact .letter (by decide)
  · simp only [List.mem_cons, List.not_mem_nil, or_false, not_or] at h
    obtain ⟨h₁, h₂, h₃, h₄, h₅⟩ := h
    rw [if_neg h₁, if_neg h₂, if_neg h₃, if_neg h₄, if_neg h₅]
    split
    · next hc => exact .unit (hexDigits_control c.toNat hc)
    · next hc => exact .raw (Nat.le_of_not_lt hc) hq hb

def escaped (s : String) : List Char := s.toList.flatMap escapeChar

theorem spellsText_escaped (s : String) : SpellsText s.toList (escaped s) := by
  unfold escaped
  induction s.toList with
  | nil => exact .nil
  | cons c cs ih => exact .cons (spellsChar_escapeChar c) ih

theorem spells_writeText (s : String) : Spells (.string s) (writeText s) :=
  .string (spellsText_escaped s)

/-! ### lists and objects -/

def Item.bare (p : Value × List Char) : Item := ⟨[], p.1, p.2, []⟩

def Member.bare (m : String × Value × List Char) : Member := ⟨[], m.1, escaped m.1, [], .bare m.2⟩

theorem Item.bare_blanks (p : Value × List Char) : (Item.bare p).Blanks where
  before := areBlanks_nil
  after := areBlanks_nil

theorem Member.bare_blanks (m : String × Value × List Char) : (Member.bare m).Blanks where
  before := areBlanks_nil
  behind := areBlanks_nil
  item := Item.bare_blanks m.2

theorem Item.bare_all (p : Value × List Char) : (Item.bare p).all = p.2 := List.append_nil p.2

theorem Member.bare_all (m : String × Value × List Char) :
    (Member.bare m).all = writeMember m.1 m.2.2 := by
  show '"' :: (escaped m.1 ++ '"' :: ':' :: (Item.bare m.2).all) =
    '"' :: (escaped m.1 ++ ['"']) ++ _
  rw [Item.bare_all, List.cons_append, List.append_assoc]
  rfl

theorem spells_writeList {items : List (Value × List Char)} (h : ∀ p ∈ items, Spells p.1 p.2) :
    Spells (.array (items.map Prod.fst)) (writeList (items.map Prod.snd)) := by
  cases items with
  | nil => exact .noItems areBlanks_nil
  | cons p items =>
    have key : Spells (.array (((p :: items).map Item.bare).map (·.value))) _ :=
      .array (List.cons_ne_nil _ _)
        (by
          intro i hi
          obtain ⟨q, -, rfl⟩ := List.mem_map.mp hi
          exact Item.bare_blanks q)
        (by
          intro i hi
          obtain ⟨q, hq, rfl⟩ := List.mem_map.mp hi
          exact h q hq)
    rw [List.map_map, List.map_map] at key
    rw [← funext Item.bare_all]
    exact key

theorem spells_writeObject {members : List (String × Value × List Char)}
    (h : ∀ m ∈ members, Spells m.2.1 m.2.2) :
    Spells (.object (members.map fun m => (m.1, m.2.1)))
      (writeObject (members.map fun m => writeMember m.1 m.2.2)) := by
  cases members with
  | nil => exact .noMembers areBlanks_nil
  | cons m members =>
    have key : Spells
        (.object (((m :: members).map Member.bare).map fun n => (n.key, n.item.value))) _ :=
      .object (List.cons_ne_nil _ _)
        (by
          intro n hn
          obtain ⟨q, -, rfl⟩ := List.mem_map.mp hn
          exact Member.bare_blanks q)
        (by
          intro n hn
          obtain ⟨q, -, rfl⟩ := List.mem_map.mp hn
          exact spellsText_escaped q.1)
        (by
          intro n hn
          obtain ⟨q, hq, rfl⟩ := List.mem_map.mp hn
          exact h q hq)
    rw [List.map_map, List.map_map] at key
    rw [← funext Member.bare_all]
    exact key

end ServiceDiagram.Json

import ServiceDiagram.Text.Front

/-!
# Character entities

Four characters have an entity each.  `Entity.expand` replaces every occurrence of one entity;
`unescapeEntities` does so for the four in turn, the ampersand last, so that what an entity gives is
never read as part of another one.
-/

namespace ServiceDiagram.Escape

/-- the letters of an entity behind its ampersand, and the character it stands for -/
structure Entity where
  letters : List Char
  char : Char

/-- the four entities, in the order of their replacement -/
def Entity.all : List Entity :=
  [⟨['l', 't', ';'], '<'⟩, ⟨['g', 't', ';'], '>'⟩, ⟨['q', 'u', 'o', 't', ';'], '"'⟩,
    ⟨['a', 'm', 'p', ';'], '&'⟩]

/-- the text behind an entity that starts here -/
def Entity.after? (e : Entity) : List Char → Option (List Char)
  | [] => none
  | c :: rest => if c = '&' then Text.behind? e.letters rest else none

theorem Entity.length_lt_of_after? {e : Entity} {cs rest : List Char} (h : e.after? cs = some rest) :
    rest.length < cs.length := by
  unfold Entity.after? at h
  split at h
  · cases h
  · split at h
    · rw [Text.eq_append_of_behind? h, List.length_cons, List.length_append]
      omega
    · cases h

/-- every occurrence of an entity, from the left, becomes its character -/
def Entity.expand (e : Entity) (cs : List Char) : List Char :=
  match h : e.after? cs with
  | some rest =>
    have := Entity.length_lt_of_after? h
    e.char :: e.expand rest
  | none =>
    match cs with
    | [] => []
    | c :: rest => c :: e.expand rest
termination_by cs.length

def unescapeEntities (s : String) : String :=
  String.ofList (Entity.all.foldl (fun cs e => e.expand cs) s.toList)

end ServiceDiagram.Escape

import ServiceDiagram.Text.Front

/-!
# Placeholders

`$` and a name between braces stand for the value that the name has in the environment.  A name is
any run of characters without a closing brace, but not the empty one.  A text is read once from the
left: a placeholder whose name has no value stays as it is, and a value is not read again.
-/

namespace ServiceDiagram.Settings

/-- names with their values, each name once -/
abbrev Environment := List (String × String)

namespace Environment

def definition (d : String × String) : List Char := d.1.toList ++ '=' :: d.2.toList

/-- the value of a name: what a definition has behind the name and an equals sign -/
def value? (env : Environment) (name : List Char) : Option (List Char) :=
  env.findSome? fun d => Text.behind? (name ++ ['=']) (definition d)

end Environment

/-! ### placeholders -/

/-- the name of the placeholder that starts here, and the text behind it -/
def placeholder? : List Char → Option (List Char × List Char)
  | '$' :: '\x7b' :: rest =>
    let name := rest.takeWhile (· != '\x7d')
    match rest.dropWhile (· != '\x7d') with
    | [] => none
    | _ :: behind => if name.isEmpty then none else some (name, behind)
  | _ => none

def placeholder (name : List Char) : List Char := '$' :: '\x7b' :: name ++ ['\x7d']

theorem eq_placeholder_append {cs name rest : List Char} (h : placeholder? cs = some (name, rest)) :
    cs = placeholder name ++ rest := by
  unfold placeholder? at h
  split at h
  · rename_i tail
    simp only at h
    split at h
    · cases h
    · rename_i c behind e
      split at h
      · cases h
      · cases h
        have closing : c = '\x7d' := by
          have := List.head?_dropWhile_not (· != '\x7d') tail
          simpa [e] using this
        have := List.takeWhile_append_dropWhile (p := (· != '\x7d')) (l := tail)
        rw [e, closing] at this
        simp only [placeholder, List.cons_append, List.append_assoc, List.nil_append]
        rw [this]
  · cases h

theorem length_lt_of_placeholder? {cs name rest : List Char}
    (h : placeholder? cs = some (name, rest)) : rest.length < cs.length := by
  rw [eq_placeholder_append h]
  simp [placeholder]
  omega

/-- a text with the values of its placeholders -/
def fill (env : Environment) (cs : List Char) : List Char :=
  match h : placeholder? cs with
  | some (name, rest) =>
    have := length_lt_of_placeholder? h
    (env.value? name).getD (placeholder name) ++ fill env rest
  | none =>
    match cs with
    | [] => []
    | c :: rest => c :: fill env rest
termination_by cs.length

def names (cs : List Char) : List (List Char) :=
  match h : placeholder? cs with
  | some (name, rest) =>
    have := length_lt_of_placeholder? h
    name :: names rest
  | none =>
    match cs with
    | [] => []
    | _ :: rest => names rest
termination_by cs.length

/-- settings as they are read, their placeholders filled -/
def filled (env : Environment) (s : String) : String := String.ofList (fill env s.toList)

end ServiceDiagram.Settings

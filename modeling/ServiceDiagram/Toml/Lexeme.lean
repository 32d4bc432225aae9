import ServiceDiagram.Text.Hex

/-!
# Blanks, strings and keys of TOML

Each reader gives what stands at the start of the text and the text behind it, or nothing if it does
not stand there.
-/

namespace ServiceDiagram.Toml

/-- space or tab -/
def isBlank (c : Char) : Bool := c == ' ' || c == '\t'

def skipBlanks (cs : List Char) : List Char := cs.dropWhile isBlank

/-- a character that may not stand in a text: controls but for the tab -/
def isControl (c : Char) : Bool := (c.toNat < 0x20 && c != '\t') || c.toNat == 0x7f

/-- the text behind a line end -/
def lineEnd? : List Char → Option (List Char)
  | '\n' :: rest => some rest
  | '\r' :: '\n' :: rest => some rest
  | _ => none

/-- the text behind a comment, if there is one; it ends in front of the line end -/
def skipComment : List Char → List Char
  | '#' :: rest => rest.dropWhile fun c => !isControl c
  | cs => cs

def skipLines : Nat → List Char → List Char
  | 0, cs => cs
  | fuel + 1, cs =>
    let cs := skipComment (skipBlanks cs)
    match lineEnd? cs with
    | some rest => skipLines fuel rest
    | none => cs

def skipSpace (cs : List Char) : List Char := skipLines (cs.length + 1) cs

/-! ### strings -/

/-- the character with this number -/
def scalar? (n : Nat) : Option Char := if h : n.isValidChar then some (Char.ofNatAux n h) else none

/-- the character that the next `k` digits give -/
def hexEscape? (k : Nat) (cs : List Char) : Option (Char × List Char) :=
  if cs.length < k then none
  else ((Text.hexNumber? (cs.take k)).bind scalar?).map fun c => (c, cs.drop k)

/-- the character of an escape, of which the backslash is read -/
def escape? : List Char → Option (Char × List Char)
  | 'b' :: rest => some ('\x08', rest)
  | 't' :: rest => some ('\t', rest)
  | 'n' :: rest => some ('\n', rest)
  | 'f' :: rest => some ('\x0c', rest)
  | 'r' :: rest => some ('\r', rest)
  | 'e' :: rest => some ('\x1b', rest)
  | '"' :: rest => some ('"', rest)
  | '\\' :: rest => some ('\\', rest)
  | 'x' :: rest => hexEscape? 2 rest
  | 'u' :: rest => hexEscape? 4 rest
  | 'U' :: rest => hexEscape? 8 rest
  | _ => none

/-- the text behind blanks and line ends -/
def skipBreaks : Nat → List Char → List Char
  | 0, cs => cs
  | fuel + 1, cs =>
    match lineEnd? (skipBlanks cs) with
    | some rest => skipBreaks fuel rest
    | none => skipBlanks cs

/-- the text behind a backslash at the end of a line and all blanks after it -/
def joinedLine? (cs : List Char) : Option (List Char) :=
  (lineEnd? (skipBlanks cs)).map fun rest => skipBreaks (rest.length + 1) rest

/-- a line may end with a return only in front of a line feed -/
def strayReturn : List Char → Bool
  | '\r' :: '\n' :: _ => false
  | '\r' :: _ => true
  | _ => false

/-- the rest of a string on one line, its opening quote read; `spelt` holds its characters, last first -/
def basic? : Nat → List Char → List Char → Option (String × List Char)
  | 0, _, _ => none
  | fuel + 1, spelt, cs =>
    match cs with
    | [] => none
    | '"' :: rest => some (String.ofList spelt.reverse, rest)
    | '\\' :: rest =>
      match escape? rest with
      | some (c, rest) => basic? fuel (c :: spelt) rest
      | none => none
    | c :: rest => if isControl c then none else basic? fuel (c :: spelt) rest

/-- the rest of a string without escapes on one line -/
def literal? (spelt : List Char) : List Char → Option (String × List Char)
  | [] => none
  | '\'' :: rest => some (String.ofList spelt.reverse, rest)
  | c :: rest => if isControl c then none else literal? (c :: spelt) rest

/-- three quotes end a string of several lines; one or two more in front of them belong to it -/
def closing? (quote : Char) (spelt cs : List Char) : Option (String × List Char) :=
  let run := cs.takeWhile (· == quote)
  if run.length < 3 then none
  else
    let inner := min (run.length - 3) 2
    some (String.ofList (spelt.reverse ++ List.replicate inner quote), cs.drop (inner + 3))

/-- the rest of a string of several lines, with escapes or without -/
def multiline? (quote : Char) (escapes : Bool) :
    Nat → List Char → List Char → Option (String × List Char)
  | 0, _, _ => none
  | fuel + 1, spelt, cs =>
    match closing? quote spelt cs with
    | some done => some done
    | none =>
      match cs with
      | [] => none
      | c :: rest =>
        if escapes && c == '\\' then
          match joinedLine? rest with
          | some rest => multiline? quote escapes fuel spelt rest
          | none =>
            match escape? rest with
            | some (c, rest) => multiline? quote escapes fuel (c :: spelt) rest
            | none => none
        else if c == '\n' || c == '\r' then
          if strayReturn cs then none else multiline? quote escapes fuel (c :: spelt) rest
        else if isControl c then none
        else multiline? quote escapes fuel (c :: spelt) rest

/-- a string of several lines does not hold the line end behind its opening quotes -/
def dropLineEnd (cs : List Char) : List Char := (lineEnd? cs).getD cs

/-- a string of any of the four kinds -/
def string? (cs : List Char) : Option (String × List Char) :=
  match cs with
  | '"' :: '"' :: '"' :: rest => multiline? '"' true (cs.length + 1) [] (dropLineEnd rest)
  | '\'' :: '\'' :: '\'' :: rest => multiline? '\'' false (cs.length + 1) [] (dropLineEnd rest)
  | '"' :: rest => basic? (cs.length + 1) [] rest
  | '\'' :: rest => literal? [] rest
  | _ => none

/-! ### keys -/

def isBare (c : Char) : Bool := c.isAlphanum || c == '_' || c == '-'

def simpleKey? (cs : List Char) : Option (String × List Char) :=
  match cs with
  | '"' :: rest => basic? (cs.length + 1) [] rest
  | '\'' :: rest => literal? [] rest
  | _ =>
    let word := cs.takeWhile isBare
    if word.isEmpty then none else some (String.ofList word, cs.drop word.length)

/-- a key with its parts, between which there are dots -/
def key? : Nat → List Char → Option (List String × List Char)
  | 0, _ => none
  | fuel + 1, cs =>
    match simpleKey? cs with
    | none => none
    | some (part, rest) =>
      match skipBlanks rest with
      | '.' :: more =>
        (key? fuel (skipBlanks more)).map fun parts => (part :: parts.1, parts.2)
      | rest => some ([part], rest)

end ServiceDiagram.Toml

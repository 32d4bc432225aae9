/-!
# Tables of a configuration

Values of a TOML text.  A table remembers how it came about, because that decides what may still be
added to it:

* `header`    it has a header of its own: keys are added only under that header;
* `implied`   it is on the way to another header: it may get its own header;
* `dotted`    it is on the way of a dotted key: more dotted keys may pass through it;
* `inline`    it is written between braces: nothing is added to it.
-/

namespace ServiceDiagram.Toml

/-- how a table came about -/
inductive Origin where
  | header
  | implied
  | dotted
  | inline
  deriving DecidableEq

inductive Value where
  | string (s : String)
  | integer (n : Int)
  /-- a number with a fraction or an exponent, and whether it is too great to be one -/
  | float (overflows : Bool)
  | boolean (b : Bool)
  /-- a date, a time or both -/
  | moment
  | array (items : List Value)
  /-- tables that share a header between double brackets -/
  | tables (items : List (List (String × Value)))
  | table (origin : Origin) (entries : List (String × Value))

/-- keys with their values, each key once -/
abbrev Table := List (String × Value)

namespace Table

/-- a table with the value of a key changed; `f` gets `none` if the key is not there -/
def alter? (key : String) (f : Option Value → Option Value) : Table → Option Table
  | [] => (f none).map fun v => [(key, v)]
  | entry :: rest =>
    if entry.1 = key then (f (some entry.2)).map fun v => (key, v) :: rest
    else (alter? key f rest).map (entry :: ·)

def alterLast? (f : Table → Option Table) : List Table → Option (List Table)
  | [] => none
  | [t] => (f t).map ([·])
  | t :: ts => (alterLast? f ts).map (t :: ·)

/-- the table at the end of the path of a header changed -/
def underHeader? (f : Table → Option Table) : List String → Table → Option Table
  | [], t => f t
  | key :: path, t =>
    t.alter? key fun
      | none => (underHeader? f path []).map (.table .implied)
      | some (.table .inline _) => none
      | some (.table origin inner) => (underHeader? f path inner).map (.table origin)
      | some (.tables items) => (alterLast? (underHeader? f path) items).map .tables
      | some _ => none

/-- one more value in a table, at the end of the dotted key -/
def insert? (value : Value) : List String → Table → Option Table
  | [], _ => none
  | [key], t =>
    t.alter? key fun
      | none => some value
      | some _ => none
  | key :: next :: path, t =>
    t.alter? key fun
      | none => (insert? value (next :: path) []).map (.table .dotted)
      | some (.table .dotted inner) => (insert? value (next :: path) inner).map (.table .dotted)
      | some (.table .implied inner) =>
        if path.isEmpty then none
        else (insert? value (next :: path) inner).map (.table .implied)
      | some _ => none

/-- the table that a header opens -/
def open? (key : String) (t : Table) : Option Table :=
  t.alter? key fun
    | none => some (.table .header [])
    | some (.table .implied inner) => some (.table .header inner)
    | some _ => none

/-- one more table under a header between double brackets -/
def append? (key : String) (t : Table) : Option Table :=
  t.alter? key fun
    | none => some (.tables [[]])
    | some (.tables items) => some (.tables (items ++ [[]]))
    | some _ => none

end Table

end ServiceDiagram.Toml

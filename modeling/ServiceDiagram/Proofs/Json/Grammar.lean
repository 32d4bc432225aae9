import ServiceDiagram.Text.Hex

/-!
# JSON texts and their values

A second account of JSON, apart from the readers: what values there are, and which characters spell
them.

* `Value`              the value of a text, a tree; members keep their order and may repeat a key;
* `SpellsText s cs`    `cs` may stand between quotes for the text `s`;
* `Numeral`            a number as it is written, and the rational number that it means;
* `Spells v cs`        `cs` spells `v`, without blanks in front or behind;
* `IsText v cs`        `cs` is a JSON text of the value `v`.

A value has many spellings: blanks between words are free, and a character of a string may be
itself, an escape of one letter if it has one, or the escape of its units. -/

namespace ServiceDiagram.Json

inductive Value where
  | null
  | boolean (b : Bool)
  | number (x : Rat)
  | string (s : String)
  | array (items : List Value)
  | object (members : List (String × Value))

/-- nothing but spaces, tabs, line feeds and carriage returns -/
def AreBlanks (cs : List Char) : Prop := ∀ c ∈ cs, c = ' ' ∨ c = '\t' ∨ c = '\n' ∨ c = '\r'

theorem areBlanks_nil : AreBlanks [] := by
  intro c hc
  cases hc

/-! ### strings -/

def escapeLetters : List (Char × Char) :=
  [('"', '"'), ('\\', '\\'), ('/', '/'), ('b', '\x08'), ('f', '\x0c'), ('n', '\n'), ('r', '\r'),
    ('t', '\t')]

def HexDigits (n : Nat) (ds : List Char) : Prop := ds.length = 4 ∧ Text.hexNumber? ds = some n

inductive SpellsChar : Char → List Char → Prop
  | raw {c} (hc : 0x20 ≤ c.toNat) (hq : c ≠ '"') (hb : c ≠ '\\') : SpellsChar c [c]
  | letter {e c} (h : (e, c) ∈ escapeLetters) : SpellsChar c ['\\', e]
  | unit {c ds} (h : HexDigits c.toNat ds) : SpellsChar c ('\\' :: 'u' :: ds)
  | pair {c high low ds es} (hd : HexDigits high ds) (he : HexDigits low es)
      (hh : 0xd800 ≤ high ∧ high < 0xdc00) (hl : 0xdc00 ≤ low ∧ low < 0xe000)
      (hc : c.toNat = 0x10000 + (high - 0xd800) * 0x400 + (low - 0xdc00)) :
      SpellsChar c ('\\' :: 'u' :: ds ++ '\\' :: 'u' :: es)

inductive SpellsText : List Char → List Char → Prop
  | nil : SpellsText [] []
  | cons {c s ds cs} (hc : SpellsChar c ds) (hs : SpellsText s cs) : SpellsText (c :: s) (ds ++ cs)

/-! ### numbers -/

def AreDigits (ds : List Char) : Prop := ds ≠ [] ∧ ∀ d ∈ ds, '0' ≤ d ∧ d ≤ '9'

structure Exponent where
  letter : Char
  sign : List Char
  digits : List Char

namespace Exponent

structure Valid (e : Exponent) : Prop where
  letter : e.letter = 'e' ∨ e.letter = 'E'
  sign : e.sign = [] ∨ e.sign = ['+'] ∨ e.sign = ['-']
  digits : AreDigits e.digits

def text (e : Exponent) : List Char := e.letter :: (e.sign ++ e.digits)

def value (e : Exponent) : Int :=
  if e.sign = ['-'] then -(Text.ofDigits 10 e.digits) else Text.ofDigits 10 e.digits

end Exponent

/-- a number with the digits in front of the point, those behind it if there is one, and the
exponent if there is one -/
structure Numeral where
  negative : Bool
  whole : List Char
  decimals : Option (List Char)
  exponent : Option Exponent

namespace Numeral

structure Valid (n : Numeral) : Prop where
  whole : AreDigits n.whole
  leading : n.whole = ['0'] ∨ n.whole.head? ≠ some '0'
  decimals : ∀ ds ∈ n.decimals, AreDigits ds
  exponent : ∀ e ∈ n.exponent, e.Valid

def fractionText (n : Numeral) : List Char := (n.decimals.map ('.' :: ·)).getD []

def exponentText (n : Numeral) : List Char := (n.exponent.map (·.text)).getD []

def unsigned (n : Numeral) : List Char := n.whole ++ (n.fractionText ++ n.exponentText)

def text (n : Numeral) : List Char := if n.negative then '-' :: n.unsigned else n.unsigned

def value (n : Numeral) : Rat :=
  let decimals := n.decimals.getD []
  let exponent := (n.exponent.map (·.value)).getD 0 - decimals.length
  let size : Rat := Text.ofDigits 10 (n.whole ++ decimals) * (10 : Rat) ^ exponent
  if n.negative then -size else size

end Numeral

/-! ### values -/

structure Item where
  before : List Char
  value : Value
  text : List Char
  after : List Char

def Item.all (i : Item) : List Char := i.before ++ (i.text ++ i.after)

/-- a member of an object with its blanks; `spelling` is what its key has between the quotes -/
structure Member where
  before : List Char
  key : String
  spelling : List Char
  behind : List Char
  item : Item

def Member.all (m : Member) : List Char :=
  m.before ++ '"' :: (m.spelling ++ '"' :: (m.behind ++ ':' :: m.item.all))

structure Item.Blanks (i : Item) : Prop where
  before : AreBlanks i.before
  after : AreBlanks i.after

structure Member.Blanks (m : Member) : Prop where
  before : AreBlanks m.before
  behind : AreBlanks m.behind
  item : m.item.Blanks

/-- **The spellings of a value.**  Items and members have commas between them. -/
inductive Spells : Value → List Char → Prop
  | null : Spells .null ['n', 'u', 'l', 'l']
  | wordTrue : Spells (.boolean true) ['t', 'r', 'u', 'e']
  | wordFalse : Spells (.boolean false) ['f', 'a', 'l', 's', 'e']
  | number {n : Numeral} (h : n.Valid) : Spells (.number n.value) n.text
  | string {s : String} {cs} (h : SpellsText s.toList cs) :
      Spells (.string s) ('"' :: (cs ++ ['"']))
  | noItems {b} (h : AreBlanks b) : Spells (.array []) ('[' :: (b ++ [']']))
  | array {items : List Item} (hne : items ≠ []) (hb : ∀ i ∈ items, i.Blanks)
      (h : ∀ i ∈ items, Spells i.value i.text) :
      Spells (.array (items.map (·.value)))
        ('[' :: ([','].intercalate (items.map (·.all)) ++ [']']))
  | noMembers {b} (h : AreBlanks b) : Spells (.object []) ('\x7b' :: (b ++ ['\x7d']))
  | object {members : List Member} (hne : members ≠ []) (hb : ∀ m ∈ members, m.Blanks)
      (hk : ∀ m ∈ members, SpellsText m.key.toList m.spelling)
      (h : ∀ m ∈ members, Spells m.item.value m.item.text) :
      Spells (.object (members.map fun m => (m.key, m.item.value)))
        ('\x7b' :: ([','].intercalate (members.map (·.all)) ++ ['\x7d']))

/-- a JSON text: one value, with blanks around it -/
def IsText (v : Value) (cs : List Char) : Prop :=
  ∃ before text after, cs = before ++ (text ++ after) ∧ AreBlanks before ∧ AreBlanks after ∧
    Spells v text

end ServiceDiagram.Json

import ServiceDiagram.Json.Skip

/-!
# Typed values of JSON

Readers for the values that a document is made of: texts, optional values, lists, and records.  A
record is an object, whose members may come in any order, or a list of its fields in their order.
Each reader gives a value and the bytes behind it.
-/

namespace ServiceDiagram.Json

/-- what stands here, where something else is expected -/
def find : Bytes → Except Fault Found
  | [] => .error .endInValue
  | b :: rest =>
    if b = 0x6e then (skipWord ['u', 'l', 'l'] rest).map fun _ => .null
    else if b = 0x74 then (skipWord ['r', 'u', 'e'] rest).map fun _ => .boolean true
    else if b = 0x66 then (skipWord ['a', 'l', 's', 'e'] rest).map fun _ => .boolean false
    else if b = 0x2d then findNumber true rest
    else if isDigit b then findNumber false (b :: rest)
    else if b = 0x22 then (readString rest).map fun p => .string p.1
    else if b = 0x5b then .ok .sequence
    else if b = 0x7b then .ok .map
    else .error .expectedValue

/-- the fault of what stands here, where something else is expected -/
def mismatch (expected : String) (bs : Bytes) : Fault :=
  match find bs with
  | .ok found => .invalidType found expected
  | .error e => e

/-! ### texts and optional values -/

def readText (bs : Bytes) : Except Fault (String × Bytes) :=
  match skipBlanks bs with
  | [] => .error .endInValue
  | b :: rest => if b = 0x22 then readString rest else .error (mismatch "a string" (b :: rest))

def readOption (read : Bytes → Except Fault (α × Bytes)) (bs : Bytes) :
    Except Fault (Option α × Bytes) :=
  match skipBlanks bs with
  | [] => .error .endInValue
  | b :: rest =>
    if b = 0x6e then (skipWord ['u', 'l', 'l'] rest).map fun after => (none, after)
    else (read (b :: rest)).map fun p => (some p.1, p.2)

/-! ### lists -/

/-- the bytes from the next element on, or `none` if the list ends here -/
def nextItem (first : Bool) (bs : Bytes) : Except Fault (Option Bytes) :=
  match skipBlanks bs with
  | [] => .error .endInList
  | b :: rest =>
    if b = 0x5d then .ok none
    else if first then .ok (some (b :: rest))
    else if b = 0x2c then
      match skipBlanks rest with
      | [] => .error .endInValue
      | c :: more => if c = 0x5d then .error .trailingComma else .ok (some (c :: more))
    else .error .expectedCommaOrBracket

def endList (bs : Bytes) : Except Fault Bytes :=
  match skipBlanks bs with
  | [] => .error .endInList
  | b :: rest =>
    if b = 0x5d then .ok rest
    else if b = 0x2c ∧ (skipBlanks rest).head? = some 0x5d then .error .trailingComma
    else .error .trailingCharacters

/-- the elements up to the end of the list; each takes a byte at least, so `fuel` need not exceed the
number of bytes -/
def readItems (read : Bytes → Except Fault (α × Bytes)) :
    Nat → Bool → Bytes → Except Fault (List α × Bytes)
  | 0, _, _ => .error .endInList
  | fuel + 1, first, bs =>
    match nextItem first bs with
    | .error e => .error e
    | .ok none => .ok ([], bs)
    | .ok (some item) =>
      match read item with
      | .error e => .error e
      | .ok (x, rest) =>
        match readItems read fuel false rest with
        | .error e => .error e
        | .ok (xs, rest) => .ok (x :: xs, rest)

def readList (read : Bytes → Except Fault (α × Bytes)) (bs : Bytes) :
    Except Fault (List α × Bytes) :=
  match skipBlanks bs with
  | [] => .error .endInValue
  | b :: rest =>
    if b = 0x5b then
      match readItems read (rest.length + 1) true rest with
      | .error e => .error e
      | .ok (xs, after) => (endList after).map fun behind => (xs, behind)
    else .error (mismatch "a sequence" (b :: rest))

/-! ### records -/

/-- a field: its key, whether it must be given, and how its value changes the record -/
structure Field (α : Type) where
  key : String
  required : Bool
  read : α → Bytes → Except Fault (α × Bytes)

/-- a record: its name in messages, the value of the record without fields, and the fields in order -/
structure Shape (α : Type) where
  title : String
  start : α
  fields : List (Field α)

namespace Field

def text (key : String) (required : Bool) (set : α → String → α) : Field α :=
  ⟨key, required, fun x bs => (readText bs).map fun p => (set x p.1, p.2)⟩

def optional (key : String) (set : α → Option String → α) : Field α :=
  ⟨key, false, fun x bs => (readOption readText bs).map fun p => (set x p.1, p.2)⟩

def list (key : String) (read : Bytes → Except Fault (β × Bytes)) (set : α → List β → α) : Field α :=
  ⟨key, false, fun x bs => (readList read bs).map fun p => (set x p.1, p.2)⟩

end Field

/-- the bytes from the next key on, its quote read, or `none` if the object ends here -/
def nextKey (first : Bool) (bs : Bytes) : Except Fault (Option Bytes) :=
  match skipBlanks bs with
  | [] => .error .endInObject
  | b :: rest =>
    if b = 0x7d then .ok none
    else if first then
      if b = 0x22 then .ok (some rest) else .error .keyNotString
    else if b = 0x2c then
      match skipBlanks rest with
      | [] => .error .endInValue
      | c :: more =>
        if c = 0x22 then .ok (some more)
        else if c = 0x7d then .error .trailingComma
        else .error .keyNotString
    else .error .expectedCommaOrBrace

def endObject (bs : Bytes) : Except Fault Bytes :=
  match skipBlanks bs with
  | [] => .error .endInObject
  | b :: rest =>
    if b = 0x7d then .ok rest
    else if b = 0x2c then .error .trailingComma
    else .error .trailingCharacters

/-- the record with one more member, the keys that are given, and the bytes behind the member, of
which the quote of the key is read -/
def readMember (fields : List (Field α)) (given : List String) (x : α) (bs : Bytes) :
    Except Fault (List String × α × Bytes) :=
  match readString bs with
  | .error e => .error e
  | .ok (key, rest) =>
    match fields.find? (·.key == key) with
    | some field =>
      if key ∈ given then .error (.duplicateField key)
      else
        match skipColon rest with
        | .error e => .error e
        | .ok rest => (field.read x rest).map fun p => (key :: given, p.1, p.2)
    | none =>
      match skipColon rest with
      | .error e => .error e
      | .ok rest => (skipValue rest).map fun after => (given, x, after)

/-- the record with all members up to the end of the object; each takes a byte at least, so `fuel` need
not exceed the number of bytes -/
def readMembers (fields : List (Field α)) :
    Nat → Bool → List String → α → Bytes → Except Fault (List String × α × Bytes)
  | 0, _, _, _, _ => .error .endInObject
  | fuel + 1, first, given, x, bs =>
    match nextKey first bs with
    | .error e => .error e
    | .ok none => .ok (given, x, bs)
    | .ok (some member) =>
      match readMember fields given x member with
      | .error e => .error e
      | .ok (given, x, rest) => readMembers fields fuel false given x rest

/-- the record with its fields in their order, from position `index` on -/
def readPositions (shape : Shape α) :
    List (Field α) → Nat → Bool → α → Bytes → Except Fault (α × Bytes)
  | [], _, _, x, bs => .ok (x, bs)
  | field :: fields, index, first, x, bs =>
    match nextItem first bs with
    | .error e => .error e
    | .ok none =>
      if field.required then
        .error (.invalidLength index
          (shape.title ++ " with " ++ toString shape.fields.length ++ " elements"))
      else readPositions shape fields (index + 1) first x bs
    | .ok (some item) =>
      match field.read x item with
      | .error e => .error e
      | .ok (x, rest) => readPositions shape fields (index + 1) false x rest

def readRecord (shape : Shape α) (bs : Bytes) : Except Fault (α × Bytes) :=
  match skipBlanks bs with
  | [] => .error .endInValue
  | b :: rest =>
    if b = 0x5b then
      match readPositions shape shape.fields 0 true shape.start rest with
      | .error e => .error e
      | .ok (x, after) => (endList after).map fun behind => (x, behind)
    else if b = 0x7b then
      match readMembers shape.fields (rest.length + 1) true [] shape.start rest with
      | .error e => .error e
      | .ok (given, x, after) =>
        match shape.fields.find? fun f => f.required && !given.contains f.key with
        | some field => .error (.missingField field.key)
        | none => (endObject after).map fun behind => (x, behind)
    else .error (mismatch shape.title (b :: rest))

def readWhole (shape : Shape α) (bs : Bytes) : Except Fault α :=
  match readRecord shape bs with
  | .error e => .error e
  | .ok (x, rest) => if skipBlanks rest = [] then .ok x else .error .trailingCharacters

end ServiceDiagram.Json

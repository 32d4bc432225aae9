import ServiceDiagram.Json.Fault
import ServiceDiagram.Text.Hex
import ServiceDiagram.Text.Utf16

/-!
# Words and strings of JSON

Blanks, the words `null`, `true` and `false`, and strings.  `readString` gives the text that a string
spells; `skipString` only finds its end, and minds neither surrogates nor the encoding.
-/

namespace ServiceDiagram.Json

/-- space, tab, line feed and carriage return -/
def isBlank (b : UInt8) : Bool := b == 0x20 || b == 0x09 || b == 0x0a || b == 0x0d

def skipBlanks (bs : Bytes) : Bytes := bs.dropWhile isBlank

/-- the bytes behind a word of which the first letter is already read -/
def skipWord : List Char → Bytes → Except Fault Bytes
  | [], bs => .ok bs
  | _ :: _, [] => .error .endInValue
  | c :: cs, b :: bs => if b.toNat = c.toNat then skipWord cs bs else .error .expectedWord

/-! ### strings -/

/-- the number of the next four hexadecimal digits -/
def readUnit : Bytes → Except Fault (Nat × Bytes)
  | a :: b :: c :: d :: rest =>
    match Text.hexNumber? ([a, b, c, d].map fun x => Char.ofNat x.toNat) with
    | some n => .ok (n, rest)
    | none => .error .invalidEscape
  | _ => .error .endInString

/-- the character of an escape of one letter -/
def escapeLetter? (b : UInt8) : Option Char :=
  match Char.ofNat b.toNat with
  | '"' => some '"'
  | '\\' => some '\\'
  | '/' => some '/'
  | 'b' => some '\x08'
  | 'f' => some '\x0c'
  | 'n' => some '\n'
  | 'r' => some '\r'
  | 't' => some '\t'
  | _ => none

/-- the second half of a pair, of which the first half is read -/
def readLowHalf (high : Nat) : Bytes → Except Fault (Char × Bytes)
  | [] => .error .endInString
  | b :: rest =>
    if b = 0x5c then
      match rest with
      | [] => .error .endInString
      | u :: rest =>
        if u = 0x75 then
          match readUnit rest with
          | .ok (low, rest) =>
            if Text.isLow low.toUInt16 then
              .ok (Text.pairChar high.toUInt16 low.toUInt16, rest)
            else .error .loneSurrogate
          | .error e => .error e
        else .error .endOfPair
    else .error .endOfPair

/-- the character of an escape, of which the backslash is read -/
def readEscape : Bytes → Except Fault (Char × Bytes)
  | [] => .error .endInString
  | b :: rest =>
    if b = 0x75 then
      match readUnit rest with
      | .ok (n, rest) =>
        if Text.isLow n.toUInt16 then .error .loneSurrogate
        else if Text.isHigh n.toUInt16 then readLowHalf n rest
        else .ok (Char.ofNat n, rest)
      | .error e => .error e
    else match escapeLetter? b with
      | some c => .ok (c, rest)
      | none => .error .invalidEscape

def skipEscape : Bytes → Except Fault Bytes
  | [] => .error .endInString
  | b :: rest =>
    if b = 0x75 then
      match readUnit rest with
      | .ok (_, rest) => .ok rest
      | .error e => .error e
    else if (escapeLetter? b).isSome then .ok rest
    else .error .invalidEscape

theorem length_lt_of_readUnit {bs rest : Bytes} {n : Nat} (h : readUnit bs = .ok (n, rest)) :
    rest.length < bs.length := by
  unfold readUnit at h
  split at h
  · split at h
    · cases h
      simp only [List.length_cons]
      omega
    · cases h
  · cases h

theorem length_lt_of_readLowHalf {high : Nat} {bs rest : Bytes} {c : Char}
    (h : readLowHalf high bs = .ok (c, rest)) : rest.length < bs.length := by
  unfold readLowHalf at h
  repeat' split at h
  all_goals first | contradiction | skip
  rename_i hu _
  have := length_lt_of_readUnit hu
  simp only [Except.ok.injEq, Prod.mk.injEq] at h
  obtain ⟨_, rfl⟩ := h
  simp only [List.length_cons]
  omega

theorem length_lt_of_readEscape {bs rest : Bytes} {c : Char} (h : readEscape bs = .ok (c, rest)) :
    rest.length < bs.length := by
  unfold readEscape at h
  repeat' split at h
  all_goals first | contradiction | skip
  · rename_i hu _ _
    have := length_lt_of_readUnit hu
    have := length_lt_of_readLowHalf h
    simp only [List.length_cons]
    omega
  · rename_i hu _ _
    have := length_lt_of_readUnit hu
    cases h
    simp only [List.length_cons]
    omega
  · cases h
    simp

theorem length_lt_of_skipEscape {bs rest : Bytes} (h : skipEscape bs = .ok rest) :
    rest.length < bs.length := by
  unfold skipEscape at h
  repeat' split at h
  all_goals first | contradiction | skip
  · rename_i hu
    have := length_lt_of_readUnit hu
    cases h
    simp only [List.length_cons]
    omega
  · cases h
    simp

/-- the bytes that a string spells up to its closing quote, and those behind it; `spelt` holds the
bytes so far, last one first -/
def stringBytes (spelt : Bytes) (bs : Bytes) : Except Fault (Bytes × Bytes) :=
  match bs with
  | [] => .error .endInString
  | b :: rest =>
    if b = 0x22 then .ok (spelt.reverse, rest)
    else if b = 0x5c then
      match h : readEscape rest with
      | .ok (c, after) =>
        have := length_lt_of_readEscape h
        stringBytes ((String.utf8EncodeChar c).reverse ++ spelt) after
      | .error e => .error e
    else if b < 0x20 then .error .controlCharacter
    else stringBytes (b :: spelt) rest
termination_by bs.length
decreasing_by
  · simp only [List.length_cons]; omega
  · simp

/-- the text of a string of which the opening quote is read -/
def readString (bs : Bytes) : Except Fault (String × Bytes) :=
  match stringBytes [] bs with
  | .ok (spelt, rest) =>
    match Text.decode? spelt with
    | some s => .ok (s, rest)
    | none => .error .invalidText
  | .error e => .error e

def skipString (bs : Bytes) : Except Fault Bytes :=
  match bs with
  | [] => .error .endInString
  | b :: rest =>
    if b = 0x22 then .ok rest
    else if b = 0x5c then
      match h : skipEscape rest with
      | .ok after =>
        have := length_lt_of_skipEscape h
        skipString after
      | .error e => .error e
    else if b < 0x20 then .error .controlCharacter
    else skipString rest
termination_by bs.length
decreasing_by
  · simp only [List.length_cons]; omega
  · simp

end ServiceDiagram.Json

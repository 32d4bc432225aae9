import ServiceDiagram.Json.Lexeme
import ServiceDiagram.Json.Number

/-!
# Values that are ignored

`skipValue` gives the bytes behind one value of any depth.  It checks the syntax only, and keeps the
lists and objects that are open in a stack.
-/

namespace ServiceDiagram.Json

inductive Frame where
  | list
  | object
  deriving DecidableEq

namespace Frame

def close : Frame → UInt8
  | .list => 0x5d
  | .object => 0x7d

/-- the fault if the text ends here -/
def atEnd : Frame → Fault
  | .list => .endInList
  | .object => .endInObject

/-- the fault if neither a comma nor the end follows an element -/
def noComma : Frame → Fault
  | .list => .expectedCommaOrBracket
  | .object => .expectedCommaOrBrace

end Frame

/-- the bytes behind a value that is neither a list nor an object -/
def skipLeaf : Bytes → Except Fault Bytes
  | [] => .error .endInValue
  | b :: rest =>
    if b = 0x6e then skipWord ['u', 'l', 'l'] rest
    else if b = 0x74 then skipWord ['r', 'u', 'e'] rest
    else if b = 0x66 then skipWord ['a', 'l', 's', 'e'] rest
    else if b = 0x2d then skipNumber rest
    else if isDigit b then skipNumber (b :: rest)
    else if b = 0x22 then skipString rest
    else .error .expectedValue

def skipColon (bs : Bytes) : Except Fault Bytes :=
  match skipBlanks bs with
  | [] => .error .endInObject
  | b :: rest => if b = 0x3a then .ok rest else .error .expectedColon

def skipKey (bs : Bytes) : Except Fault Bytes :=
  match skipBlanks bs with
  | [] => .error .endInObject
  | b :: rest =>
    if b = 0x22 then
      match skipString rest with
      | .ok rest => skipColon rest
      | .error e => .error e
    else .error .keyNotString

/-! ### what is skipped is not nothing -/

theorem length_skipBlanks_le (bs : Bytes) : (skipBlanks bs).length ≤ bs.length :=
  (List.dropWhile_sublist _).length_le

theorem length_skipDigits_le (bs : Bytes) : (skipDigits bs).length ≤ bs.length :=
  (List.dropWhile_sublist _).length_le

theorem length_le_of_skipWord {cs : List Char} {bs rest : Bytes} (h : skipWord cs bs = .ok rest) :
    rest.length ≤ bs.length := by
  induction cs generalizing bs with
  | nil => cases h; exact Nat.le_refl _
  | cons c cs ih =>
    cases bs with
    | nil => cases h
    | cons b bs =>
      simp only [skipWord] at h
      split at h
      · exact Nat.le_succ_of_le (ih h)
      · cases h

theorem length_lt_of_skipString {bs rest : Bytes} (h : skipString bs = .ok rest) :
    rest.length < bs.length := by
  fun_induction skipString bs with
  | case1 => cases h
  | case2 => cases h; simp
  | case3 rest after _ _ hlt ih =>
    have := ih h
    simp only [List.length_cons]
    omega
  | case4 => cases h
  | case5 => cases h
  | case6 b bs _ _ _ ih =>
    have := ih h
    simp only [List.length_cons]
    omega

theorem length_skipSign_le (bs : Bytes) : (skipSign bs).length ≤ bs.length := by
  unfold skipSign
  split
  · exact Nat.le_refl _
  · split <;> simp

theorem length_le_of_skipSomeDigits {bs rest : Bytes} (h : skipSomeDigits bs = .ok rest) :
    rest.length ≤ bs.length := by
  unfold skipSomeDigits at h
  split at h
  · cases h
  · split at h
    · cases h
      exact Nat.le_succ_of_le (length_skipDigits_le _)
    · cases h

theorem length_le_of_skipExponent {bs rest : Bytes} (h : skipExponent bs = .ok rest) :
    rest.length ≤ bs.length := by
  unfold skipExponent at h
  split at h
  · cases h; exact Nat.le_refl _
  · next more =>
    split at h
    · have := length_skipSign_le more
      have := length_le_of_skipSomeDigits h
      simp only [List.length_cons]
      omega
    · cases h; exact Nat.le_refl _

theorem length_le_of_skipFraction {bs rest : Bytes} (h : skipFraction bs = .ok rest) :
    rest.length ≤ bs.length := by
  unfold skipFraction at h
  split at h
  · cases h; exact Nat.le_refl _
  · split at h
    · split at h
      · next hd =>
        have := length_le_of_skipSomeDigits hd
        have := length_le_of_skipExponent h
        simp only [List.length_cons]
        omega
      · cases h
    · exact length_le_of_skipExponent h

theorem length_lt_of_skipNumber {bs rest : Bytes} (h : skipNumber bs = .ok rest) :
    rest.length < bs.length := by
  unfold skipNumber at h
  split at h
  · cases h
  · split at h
    · split at h
      · split at h
        · cases h
        · have := length_le_of_skipFraction h
          simp only [List.length_cons] at *
          omega
      · cases h; simp
    · split at h
      · next more _ _ =>
        have := length_le_of_skipFraction h
        have := length_skipDigits_le more
        simp only [List.length_cons]
        omega
      · cases h

theorem length_lt_of_skipLeaf {bs rest : Bytes} (h : skipLeaf bs = .ok rest) :
    rest.length < bs.length := by
  unfold skipLeaf at h
  split at h
  · cases h
  · repeat' split at h
    all_goals first
      | exact Nat.lt_succ_of_le (length_le_of_skipWord h)
      | exact length_lt_of_skipNumber h
      | exact Nat.lt_succ_of_lt (length_lt_of_skipNumber h)
      | exact Nat.lt_succ_of_lt (length_lt_of_skipString h)
      | cases h

theorem length_lt_of_skipColon {bs rest : Bytes} (h : skipColon bs = .ok rest) :
    rest.length < bs.length := by
  unfold skipColon at h
  have hb := length_skipBlanks_le bs
  split at h
  · cases h
  · next e =>
    rw [e] at hb
    split at h
    · cases h
      simp only [List.length_cons] at hb
      omega
    · cases h

theorem length_lt_of_skipKey {bs rest : Bytes} (h : skipKey bs = .ok rest) :
    rest.length < bs.length := by
  unfold skipKey at h
  have hb := length_skipBlanks_le bs
  split at h
  · cases h
  · next e =>
    rw [e] at hb
    split at h
    · split at h
      · next hs =>
        have := length_lt_of_skipString hs
        have := length_lt_of_skipColon h
        simp only [List.length_cons] at hb
        omega
      · cases h
    · cases h

/-! ### values of any depth -/

/-- what is due next: a value, the first element or the end of what was just opened, or what follows
an element -/
inductive Due where
  | value
  | first
  | next

/-- the order of what can be due at one place -/
def Due.rank : Due → Nat
  | .value => 0
  | .first => 1
  | .next => 1

/-- the bytes behind all that is open, when `due` is next -/
def skipOpen (due : Due) (stack : List Frame) (bs : Bytes) : Except Fault Bytes :=
  match due with
  | .value =>
    match hb : skipBlanks bs with
    | [] => .error .endInValue
    | b :: rest =>
      have : rest.length < bs.length := by
        have := length_skipBlanks_le bs
        rw [hb] at this
        exact this
      if b = 0x5b then skipOpen .first (.list :: stack) rest
      else if b = 0x7b then skipOpen .first (.object :: stack) rest
      else match hl : skipLeaf (b :: rest) with
        | .ok after =>
          have : after.length < bs.length := by
            have := length_lt_of_skipLeaf hl
            simp only [List.length_cons] at this
            omega
          skipOpen .next stack after
        | .error e => .error e
  | .first =>
    match stack with
    | [] => .ok bs
    | frame :: outer =>
      match hb : skipBlanks bs with
      | [] => .error frame.atEnd
      | b :: rest =>
        have : rest.length < bs.length := by
          have := length_skipBlanks_le bs
          rw [hb] at this
          exact this
        if b = frame.close then skipOpen .next outer rest
        else match frame with
          | .list => skipOpen .value (.list :: outer) bs
          | .object =>
            match hk : skipKey bs with
            | .ok after =>
              have := length_lt_of_skipKey hk
              skipOpen .value (.object :: outer) after
            | .error e => .error e
  | .next =>
    match stack with
    | [] => .ok bs
    | frame :: outer =>
      match hb : skipBlanks bs with
      | [] => .error frame.atEnd
      | b :: rest =>
        have : rest.length < bs.length := by
          have := length_skipBlanks_le bs
          rw [hb] at this
          exact this
        if b = frame.close then skipOpen .next outer rest
        else if b = 0x2c then
          match frame with
          | .list => skipOpen .value (.list :: outer) rest
          | .object =>
            match hk : skipKey rest with
            | .ok after =>
              have := length_lt_of_skipKey hk
              skipOpen .value (.object :: outer) after
            | .error e => .error e
        else .error frame.noComma
termination_by (bs.length, due.rank)
decreasing_by
  all_goals first
    | (apply Prod.Lex.left; omega)
    | (apply Prod.Lex.right; simp [Due.rank])

def skipValue (bs : Bytes) : Except Fault Bytes := skipOpen .value [] bs

end ServiceDiagram.Json

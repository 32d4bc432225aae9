import ServiceDiagram.Url.Domain

/-!
# Reading addresses

`schemeOf` gives the scheme of an absolute address, or says why a text is none.  Blanks around an
address and line ends inside it do not count.  An address with one of a few schemes must have a host; a
back slash is then as good as a slash.
-/

namespace ServiceDiagram.Url

/-! ### parts -/

/-- what a scheme asks of the rest -/
inductive Family where
  /-- a path in a file system, or a host and one -/
  | file
  /-- a host -/
  | hosted
  /-- nothing -/
  | other
  deriving DecidableEq

def Family.ofScheme (scheme : String) : Family :=
  if scheme = "file" then .file
  else if ["http", "https", "ws", "wss", "ftp"].contains scheme then .hosted
  else .other

def isSchemeChar (c : Char) : Bool := c.isAlphanum || c == '+' || c == '-' || c == '.'

/-- the scheme in small letters, and the text behind its colon -/
def scheme? (cs : List Char) : Option (String × List Char) :=
  if cs.head?.any Char.isAlpha then
    match cs.dropWhile isSchemeChar with
    | ':' :: rest => some (String.ofList ((cs.takeWhile isSchemeChar).map Char.toLower), rest)
    | _ => none
  else none

def isSlash (c : Char) : Bool := c == '/' || c == '\\'

/-- a character behind the authority -/
def endsAuthority (family : Family) (c : Char) : Bool :=
  c == '/' || c == '?' || c == '#' || (c == '\\' && family != .other)

/-! ### authorities -/

/-- the host at the start of a text; a colon ends it, but not between brackets -/
def takeHost (family : Family) : Bool → List Char → List Char
  | _, [] => []
  | inside, c :: rest =>
    if endsAuthority family c || (c == ':' && !inside) then []
    else c :: takeHost family (if c = '[' then true else if c = ']' then false else inside) rest

/-- the number behind a host and a colon -/
def checkNumber (cs : List Char) : Except Fault Unit :=
  let digits := cs.takeWhile Char.isDigit
  if 65535 < Text.ofDigits 10 digits then .error .number
  else if (cs.drop digits.length).head?.all fun c => isSlash c || c == '?' || c == '#' then .ok ()
  else .error .number

/-- the part of an authority that says who asks, up to its last `@`, and what is behind that -/
def splitUser (family : Family) (cs : List Char) : Option (List Char) × List Char :=
  let front := cs.takeWhile fun c => !endsAuthority family c
  let behind := (front.reverse.takeWhile (· != '@')).reverse
  if behind.length = front.length then (none, cs)
  else
    let user := front.take (front.length - behind.length - 1)
    (some user, cs.drop (user.length + 1))

/-- a host and its number; `named` says whether someone asks by name -/
def checkHostNumber (family : Family) (named : Bool) (cs : List Char) : Except Fault Unit := do
  let host := takeHost family false cs
  let rest := cs.drop host.length
  if family = .hosted then
    if host.isEmpty then throw .emptyHost
    checkHost host
  else
    checkOpaqueHost host
    if host.isEmpty ∧ rest.head? = some ':' then throw .emptyHost
  match rest with
  | ':' :: number => checkNumber number
  | _ => pure ()
  if host.isEmpty ∧ named then throw .emptyHost

def checkAuthority (family : Family) (cs : List Char) : Except Fault Unit :=
  match splitUser family cs with
  | (none, cs) => checkHostNumber family false cs
  | (some [], cs) =>
    if cs.head?.any (endsAuthority family) then .error .emptyHost
    else checkHostNumber family false cs
  | (some user, cs) => checkHostNumber family (user != [':']) cs

/-- the name of a drive, which is no host -/
def isDrive : List Char → Bool
  | [letter, mark] => letter.isAlpha && (mark == ':' || mark == '|')
  | _ => false

def checkFile : List Char → Except Fault Unit
  | a :: b :: cs =>
    let host := cs.takeWhile fun c => !(isSlash c || c == '?' || c == '#')
    if !isSlash a || !isSlash b || host.isEmpty || isDrive host then .ok () else checkHost host
  | _ => .ok ()

/-! ### addresses -/

def isMargin (c : Char) : Bool := c.toNat ≤ 0x20

/-- a text without its margins, and without tabs and line ends -/
def strip (cs : List Char) : List Char :=
  ((cs.dropWhile isMargin).reverse.dropWhile isMargin).reverse.filter fun c =>
    c != '\t' && c != '\n' && c != '\r'

def checkRest (family : Family) (cs : List Char) : Except Fault Unit :=
  match family with
  | .file => checkFile cs
  | .hosted => checkAuthority .hosted (cs.dropWhile isSlash)
  | .other =>
    match cs with
    | '/' :: '/' :: rest => checkAuthority .other rest
    | _ => .ok ()

def schemeOf (s : String) : Except Fault String :=
  match scheme? (strip s.toList) with
  | none => .error .relative
  | some (scheme, rest) => (checkRest (.ofScheme scheme) rest).map fun _ => scheme

end ServiceDiagram.Url

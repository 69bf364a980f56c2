import LightningMetrics.Text.Fields

set_option autoImplicit false

namespace LightningMetrics.Net.Uri

def longest : Nat := 65534

def longestScheme : Nat := 64

def isSchemeChar (char : Char) : Bool :=
  char.isAlphanum || "+-.~".toList.contains char

/-- The characters of an authority and its delimiters, percent signs apart. -/
def isAuthorityChar (char : Char) : Bool :=
  char.isAlphanum || "!#$&'()*+,-./:;=?@[]_~".toList.contains char

/-- Does the character end an authority? -/
def endsAuthority (char : Char) : Bool :=
  char == '/' || char == '?' || char == '#'

inductive Bracket where
  | absent
  | opened
  | closed
deriving DecidableEq, Repr

/-- What is known of an authority read up to some place. Colons and percent signs count from the
last `@` or `]` on: those before belong to the user or to a version 6 address. -/
structure AuthorityScan where
  colons : Nat
  percent : Bool
  bracket : Bracket
deriving DecidableEq, Repr

namespace AuthorityScan

def start : AuthorityScan := ⟨0, false, .absent⟩

/-- Reads one more character, unless it is out of place. -/
def read (scan : AuthorityScan) (char : Char) : Option AuthorityScan :=
  if char = ':' then
    if scan.colons < 8 then some { scan with colons := scan.colons + 1 } else none
  else if char = '[' then
    if scan.bracket = .absent ∧ !scan.percent then some { scan with bracket := .opened } else none
  else if char = ']' then
    if scan.bracket = .opened then some ⟨0, false, .closed⟩ else none
  else if char = '@' then some { scan with colons := 0, percent := false }
  else if char = '%' then some { scan with percent := true }
  else if isAuthorityChar char then some scan
  else none

/-- At most one colon before a port, brackets in pairs, percent signs only in the user part. -/
def isComplete (scan : AuthorityScan) : Bool :=
  scan.bracket != .opened && scan.colons ≤ 1 && !scan.percent

end AuthorityScan

/-- An authority names something after its last `@`. -/
def isAuthority (text : List Char) : Bool :=
  match text.foldlM AuthorityScan.read .start with
  | none => false
  | some scan => scan.isComplete && text.getLast? != some '@'

/-- Neither a control character of the ASCII range nor a space. -/
def isGraphic (char : Char) : Bool :=
  0x21 ≤ char.toNat && char.toNat != 0x7f

def isPathChar (char : Char) : Bool :=
  isGraphic char && char != '<' && char != '>' && char != '#' && char != '?' &&
    char != Char.ofNat 0x60

def isQueryChar (char : Char) : Bool :=
  isGraphic char && char != '"' && char != '<' && char != '>' && char != '#'

/-- Does the character end a path? -/
def endsPath (char : Char) : Bool :=
  char == '?' || char == '#'

/-- A path, perhaps with a query; what follows a `#` does not matter. -/
def isPathAndQuery (text : List Char) : Bool :=
  match text.dropWhile isPathChar with
  | '?' :: query =>
      match query.dropWhile isQueryChar with
      | [] => true
      | char :: _ => char == '#'
  | [] => true
  | char :: _ => char == '#'

/-- The scheme, and what follows its two slashes. -/
def scheme? (text : List Char) : Option (List Char × List Char) :=
  match text.dropWhile isSchemeChar with
  | ':' :: '/' :: '/' :: rest => some (text.takeWhile isSchemeChar, rest)
  | _ => none

/-- Is the text a resource identifier? -/
def isValid (text : String) : Bool :=
  let chars := text.toList
  let wellFormed :=
    match chars with
    | ['*'] => true
    | '/' :: _ => isPathAndQuery chars
    | _ =>
        match scheme? chars with
        | none => !chars.isEmpty && !chars.any endsAuthority && isAuthority chars
        | some (scheme, rest) =>
            let authority := rest.takeWhile fun char => !endsAuthority char
            scheme.length ≤ longestScheme && !authority.isEmpty && isAuthority authority &&
              isPathAndQuery (rest.drop authority.length)
  text.utf8ByteSize ≤ longest && wellFormed

/-- Does a valid identifier say by its scheme how its authority is reached? -/
def isAbsolute (text : String) : Bool :=
  (scheme? text.toList).isSome

/-- The path that an identifier names. Behind an authority an empty path is the root. -/
def path (text : List Char) : List Char :=
  match scheme? text with
  | none => text.takeWhile fun char => !endsPath char
  | some (_, rest) =>
      match (rest.dropWhile fun char => !endsAuthority char).takeWhile fun char => !endsPath char
      with
      | [] => ['/']
      | path => path

end LightningMetrics.Net.Uri

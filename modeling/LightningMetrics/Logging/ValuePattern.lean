import LightningMetrics.Logging.PatternSet
import LightningMetrics.Text.Letter

/-!
Patterns for the values of fields. A filter that looks at values shows no event by itself, so that
all there is to tell of a pattern is whether it is one: a regular expression without look-around,
back references, and tables of the characters of all scripts. As a brace ends the field, nothing
that needs a closing brace is a pattern either, such as counted repetition.
-/

set_option autoImplicit false

namespace LightningMetrics.Logging

inductive PatternFault where
  /-- Not a pattern at all. -/
  | malformed
  /-- Word boundaries of all scripts are out of reach. -/
  | wordBoundary
deriving DecidableEq, Repr

def PatternFault.message : PatternFault → String
  | malformed => "error building NFA"
  | wordBoundary =>
      "unsupported regex feature for DFAs: cannot build DFAs for regexes with Unicode word " ++
        "boundaries; switch to ASCII word boundaries, or heuristically enable Unicode word " ++
        "boundaries or use a different regex engine"

/-! ### Groups -/

/-- A name of letters, numerals and a few marks that starts with a letter or an underscore. -/
def isGroupName : List Char → Bool
  | [] => false
  | first :: rest =>
      (first == '_' || Text.isAlphabetic first) &&
        rest.all fun char => "_.[]".toList.contains char || Text.isAlphanumeric char

/-- The parts of a pattern between two parentheses, as far as they have been read. -/
structure PatternLevel where
  /-- The flags for the parts that follow. -/
  flags : PatternFlags
  /-- The heights of the parts of the present branch, the latest first. -/
  parts : List Nat
  /-- The heights of the branches before it. -/
  branches : List Nat
  /-- Is the latest part one that can be repeated? -/
  repeatable : Bool
deriving Repr

namespace PatternLevel

def empty (flags : PatternFlags) : PatternLevel := ⟨flags, [], [], false⟩

/-- Takes in a part. -/
def join (level : PatternLevel) (height : Nat) : PatternLevel :=
  { level with parts := height :: level.parts, repeatable := true }

/-- Takes in flags for the parts that follow. -/
def joinFlags (level : PatternLevel) (flags : PatternFlags) : PatternLevel :=
  { level.join 0 with flags, repeatable := false }

/-- Repeats the latest part. -/
def repeated? (level : PatternLevel) : Option PatternLevel :=
  match level.repeatable, level.parts with
  | true, height :: parts => some { level with parts := (height + 1) :: parts }
  | _, _ => none

/-- Begins another branch. -/
def branch (level : PatternLevel) : PatternLevel :=
  { level with
    parts := []
    branches := heightOfParts level.parts :: level.branches
    repeatable := false }

def height (level : PatternLevel) : Nat :=
  heightOfParts (heightOfParts level.parts :: level.branches)

end PatternLevel

/-- What is known of a pattern that has been read up to some place. -/
structure PatternScan where
  level : PatternLevel
  /-- The levels around it, the innermost first. -/
  outer : List PatternLevel
  names : List (List Char)
  /-- Has a word boundary of all scripts been met? -/
  boundary : Bool
deriving Repr

namespace PatternScan

def start : PatternScan := ⟨.empty .initial, [], [], false⟩

def flags (scan : PatternScan) : PatternFlags :=
  scan.level.flags

/-- Goes into a group. -/
def enter (scan : PatternScan) (flags : PatternFlags) : PatternScan :=
  { scan with level := .empty flags, outer := scan.level :: scan.outer }

/-- Comes out of a group, to the flags that were in force before it. -/
def leave? (scan : PatternScan) : Option PatternScan :=
  match scan.outer with
  | [] => none
  | next :: outer => some { scan with level := next.join (scan.level.height + 1), outer }

/-- Takes in a part. -/
def join (scan : PatternScan) (height : Nat) : PatternScan :=
  { scan with level := scan.level.join height }

/-- Reads the name of a group. -/
def named (scan : PatternScan) (text : List Char) : Option (PatternScan × List Char) :=
  let name := text.takeWhile (· ≠ '>')
  match text.drop name.length with
  | '>' :: rest =>
      if isGroupName name ∧ !scan.names.contains name then
        some (({ scan with names := name :: scan.names }).enter scan.flags, rest)
      else none
  | _ => none

/-- Reads what follows an opening parenthesis: a name, flags for the group or for what is left of
the one around it, or neither. -/
def openGroup (scan : PatternScan) (text : List Char) : Option (PatternScan × List Char) :=
  match scan.flags.skip text with
  | '?' :: 'P' :: '<' :: rest => scan.named rest
  | '?' :: '<' :: rest => scan.named rest
  | '?' :: rest =>
      let letters := rest.takeWhile fun char => char ≠ ':' ∧ char ≠ ')'
      let flags := scan.flags.apply true letters
      if !isFlagList letters then none
      else
        match rest.drop letters.length with
        | ':' :: rest => some (scan.enter flags, rest)
        | ')' :: rest =>
            if letters = [] then none
            else some ({ scan with level := scan.level.joinFlags flags }, rest)
        | _ => none
  | rest => some (scan.enter scan.flags, rest)

/-- Takes in what stands for one character or one place. -/
def atom (scan : PatternScan) (atom : PatternAtom) : Option PatternScan :=
  match atom with
  | .literal _ => if scan.flags.canFold then some (scan.join 0) else none
  | .wordBoundary =>
      some { scan.join 0 with boundary := scan.boundary || scan.flags.allScripts }
  | .set | .edge => some (scan.join 0)

/-- Reads the next part of a pattern, unless it is out of place. -/
def part (scan : PatternScan) : List Char → Option (PatternScan × List Char)
  | [] => none
  | char :: rest =>
      if char = '(' then scan.openGroup rest
      else if char = ')' then scan.leave?.map ((·, rest))
      else if char = '|' then some ({ scan with level := scan.level.branch }, rest)
      else if char = '[' then do
        let rest ← openSet scan.flags rest
        let (height, rest) ← readSet scan.flags (rest.length + 1) .empty [] rest
        return (scan.join height, rest)
      else if "?*+".toList.contains char then
        scan.level.repeated?.map fun level =>
          ({ scan with level }, if rest.head? = some '?' then rest.tail else rest)
      else if char = '\\' then do
        let (found, rest) ← readEscape scan.flags rest
        return (← scan.atom found, rest)
      else if char = '\x7b' then none
      else if char = '.' then
        if scan.flags.allScripts then some (scan.join 0, rest) else none
      else if char = '^' ∨ char = '$' then some (scan.join 0, rest)
      else (scan.atom (.literal char)).map ((·, rest))

/-- Reads a pattern to its end, where no group may be open. -/
def read : Nat → PatternScan → List Char → Option PatternScan
  | 0, _, _ => none
  | fuel + 1, scan, text =>
      match scan.flags.skip text with
      | [] => if scan.outer.isEmpty then some scan else none
      | text => (scan.part text).bind fun (scan, rest) => scan.read fuel rest

end PatternScan

/-! ### Values -/

/-- A decimal number without a sign, with a fraction or an exponent, or the name of one that has
no digits. -/
def isPlainNumber (text : List Char) : Bool :=
  let whole := text.takeWhile Char.isDigit
  let (fraction, rest) :=
    match text.drop whole.length with
    | '.' :: rest => (rest.takeWhile Char.isDigit, rest.dropWhile Char.isDigit)
    | rest => ([], rest)
  let exponent :=
    match rest with
    | [] => true
    | mark :: sign :: digits =>
        let digits := if sign = '+' ∨ sign = '-' then digits else sign :: digits
        mark.toLower == 'e' && (Text.numeral? digits).isSome
    | _ => false
  (!(whole.isEmpty && fraction.isEmpty) && exponent) ||
    ["inf", "infinity", "nan"].contains (String.ofList (text.map Char.toLower))

/-- What is wrong with a value to compare with, if anything is. A number is no pattern; only with a
plus sign in front would it be mistaken for one. -/
def valueFault? (text : List Char) : Option PatternFault :=
  if text.head? = some '+' ∧ isPlainNumber text.tail then none
  else
    match PatternScan.start.read (text.length + 1) text with
    | none => some .malformed
    | some scan =>
        if nestingLimit < scan.level.height then some .malformed
        else if scan.boundary then some .wordBoundary
        else none

end LightningMetrics.Logging

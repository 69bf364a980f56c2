import LightningMetrics.Text.Blank
import LightningMetrics.Text.Numeral

set_option autoImplicit false

namespace LightningMetrics.Logging

/-- The flags that decide what is a pattern. -/
structure PatternFlags where
  /-- Set by `i`: letters stand for both their cases. -/
  ignoreCase : Bool
  /-- Set by `u`: characters of all scripts count, not only those of the ASCII range. -/
  allScripts : Bool
  /-- Set by `x`: blanks and comments do not count. -/
  spaced : Bool
deriving DecidableEq, Repr

namespace PatternFlags

def initial : PatternFlags := ⟨false, true, false⟩

/-- Drops blanks, and comments up to the end of their line. -/
def dropBlanks (inComment : Bool) : List Char → List Char
  | [] => []
  | char :: rest =>
      if inComment then dropBlanks (char != '\n') rest
      else if Text.isBlank char then dropBlanks false rest
      else if char = '#' then dropBlanks true rest
      else char :: rest

/-- Drops what does not count. -/
def skip (flags : PatternFlags) (text : List Char) : List Char :=
  if flags.spaced then dropBlanks false text else text

/-- The next character but for what does not count, as far as one look ahead can tell: it sees no
comment, only the sign of one. -/
def peek (flags : PatternFlags) (text : List Char) : Option Char :=
  if flags.spaced then
    match text.dropWhile Text.isBlank with
    | '#' :: rest => (rest.dropWhile Text.isBlank).head?
    | rest => rest.head?
  else text.head?

/-- Sets one flag. The others decide what a pattern fits, not whether it is one. -/
def set (flags : PatternFlags) (letter : Char) (value : Bool) : PatternFlags :=
  match letter with
  | 'i' => { flags with ignoreCase := value }
  | 'u' => { flags with allScripts := value }
  | 'x' => { flags with spaced := value }
  | _ => flags

/-- Sets the flags before the hyphen and clears those after it. -/
def apply (flags : PatternFlags) (value : Bool) : List Char → PatternFlags
  | [] => flags
  | letter :: rest => if letter = '-' then flags.apply false rest else
      (flags.set letter value).apply value rest

/-- Both cases of a letter are known in the ASCII range only. -/
def canFold (flags : PatternFlags) : Bool :=
  !(flags.ignoreCase && flags.allScripts)

end PatternFlags

/-- Letters of flags, each at most once, with at most one hyphen and none at the end. -/
def isFlagList (letters : List Char) : Bool :=
  letters.all ("imsUuRx-".toList.contains ·) && decide letters.Nodup &&
    letters.getLast? != some '-'

/-- What may stand for one character or one place. -/
inductive PatternAtom where
  | literal (char : Char)
  /-- A set of characters, such as the digits. -/
  | set
  | wordBoundary
  /-- The start or the end of the text. -/
  | edge
deriving DecidableEq, Repr

/-- Reads hexadecimal digits, so many of them. -/
def readHex (flags : PatternFlags) : Nat → Nat → List Char → Option (Nat × List Char)
  | 0, value, rest => some (value, rest)
  | count + 1, value, text =>
      match flags.skip text with
      | [] => none
      | char :: rest => do readHex flags count (16 * value + (← Text.hexValue? char)) rest

/-- Reads a character by its number. Bytes beyond the ASCII range are no characters. -/
def readNumbered (flags : PatternFlags) (digits : Nat) (text : List Char) :
    Option (PatternAtom × List Char) := do
  let (value, rest) ← readHex flags digits 0 text
  guard (value.isValidChar ∧ (flags.allScripts ∨ digits ≠ 2 ∨ value < 0x80))
  return (.literal (Char.ofNat value), rest)

/-- The control characters that have a letter. -/
def controlLetters : List (Char × Nat) :=
  [('a', 0x7), ('f', 0xc), ('t', 0x9), ('n', 0xa), ('r', 0xd), ('v', 0xb)]

/-- Reads what follows a backslash. -/
def readEscape (flags : PatternFlags) : List Char → Option (PatternAtom × List Char)
  | [] => none
  | char :: rest =>
      if char = 'x' then readNumbered flags 2 rest
      else if char = 'u' then readNumbered flags 4 rest
      else if char = 'U' then readNumbered flags 8 rest
      else if "dsw".toList.contains char then
        if flags.allScripts then none else some (.set, rest)
      else if "bB<>".toList.contains char then some (.wordBoundary, rest)
      else if char = 'A' ∨ char = 'z' then some (.edge, rest)
      else
        match controlLetters.lookup char with
        | some code => some (.literal (Char.ofNat code), rest)
        | none =>
            if char.toNat < 0x80 ∧ !char.isAlphanum then some (.literal char, rest) else none

/-! ### Nesting -/

/-- How deep the parts of a pattern may nest. -/
def nestingLimit : Nat := 250

/-- The height of parts side by side. A single part needs nothing to hold it. -/
def heightOfParts : List Nat → Nat
  | [] => 0
  | [height] => height
  | heights => heights.foldl max 0 + 1

end LightningMetrics.Logging

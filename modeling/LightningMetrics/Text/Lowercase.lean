import LightningMetrics.Text.CaseTable
import LightningMetrics.Text.Ranges

/-!
The full lower-case mapping of texts. Two characters leave the character-by-character rule:
U+0130 becomes two characters, and a capital sigma is written as a final sigma where it ends a
word.
-/

set_option autoImplicit false

namespace LightningMetrics.Text

def isCased (char : Char) : Bool :=
  inRanges casedRanges char.toNat

def isCaseIgnorable (char : Char) : Bool :=
  inRanges caseIgnorableRanges char.toNat

/-- The lower-case form of one character, without regard to its neighbours. -/
def lowercaseChar (char : Char) : Char :=
  match lowercaseRuns.find? (·.holds char.toNat) with
  | some run => Char.ofNat (Int.toNat (char.toNat + run.offset))
  | none => char

/-- Is the first character that is not looked through a cased one? -/
def meetsCased (text : List Char) : Bool :=
  match text.dropWhile isCaseIgnorable with
  | [] => false
  | char :: _ => isCased char

/-- The lower-case form of a character between `before`, nearest first, and `after`. -/
def lowercaseBetween (before : List Char) (char : Char) (after : List Char) : List Char :=
  if char = 'Σ' then
    if meetsCased before && !meetsCased after then ['ς'] else ['σ']
  else if char = 'İ' then
    ['i', '\u0307']
  else
    [lowercaseChar char]

/-- Lower-cases `text`, which follows the characters `before`, nearest first. -/
def lowercaseAfter (before : List Char) : List Char → List Char
  | [] => []
  | char :: after => lowercaseBetween before char after ++ lowercaseAfter (char :: before) after

def lowercase (text : List Char) : List Char :=
  lowercaseAfter [] text

@[simp] theorem lowercase_nil : lowercase [] = [] := rfl

theorem lowercaseBetween_ne_nil (before : List Char) (char : Char) (after : List Char) :
    lowercaseBetween before char after ≠ [] := by
  unfold lowercaseBetween
  split
  · split <;> simp
  · split <;> simp

/-- No character is lost altogether. -/
theorem lowercase_eq_nil_iff (text : List Char) : lowercase text = [] ↔ text = [] := by
  cases text with
  | nil => simp
  | cons char rest => simp [lowercase, lowercaseAfter, lowercaseBetween_ne_nil]

end LightningMetrics.Text

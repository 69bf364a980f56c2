import LightningMetrics.Logging.PatternToken

set_option autoImplicit false

namespace LightningMetrics.Logging

/-- The names of the sets of the ASCII range. -/
def asciiSetNames : List String :=
  ["alnum", "alpha", "ascii", "blank", "cntrl", "digit", "graph", "lower", "print", "punct",
   "space", "upper", "word", "xdigit"]

/-- Reads the name of a set behind its bracket, and whether the complement is meant. -/
def namedSet? : List Char → Option (Bool × List Char)
  | ':' :: text =>
      let negated := text.head? == some '^'
      let text := if negated then text.tail else text
      let name := text.takeWhile (· ≠ ':')
      match text.drop name.length with
      | ':' :: ']' :: rest =>
          if asciiSetNames.contains (String.ofList name) then some (negated, rest) else none
      | _ => none
  | _ => none

/-- Reads a member of a set. -/
def readMember (flags : PatternFlags) : List Char → Option (PatternAtom × List Char)
  | [] => none
  | '\\' :: rest => do
      let (atom, rest) ← readEscape flags rest
      match atom with
      | .literal char =>
          guard (flags.allScripts ∨ char.toNat < 0x80)
          return (atom, rest)
      | .set => return (atom, rest)
      | _ => none
  | char :: rest =>
      if flags.allScripts ∨ char.toNat < 0x80 then some (.literal char, rest) else none

/-- Reads a member of a set, or a range of them. A hyphen before another or before the closing
bracket makes no range. -/
def readMembers (flags : PatternFlags) (text : List Char) : Option (List Char) := do
  guard flags.canFold
  let (first, rest) ← readMember flags text
  match flags.skip rest with
  | '-' :: after =>
      if [some ']', some '-'].contains (flags.peek after) then return '-' :: after
      else
        let (last, rest) ← readMember flags (flags.skip after)
        match first, last with
        | .literal low, .literal high =>
            guard (low ≤ high)
            return rest
        | _, _ => none
  | rest => return rest

/-- A set whose bracket has not been closed. -/
structure OpenSet where
  /-- May a hyphen, or a closing bracket in the first place, still stand for itself? -/
  opening : Bool
  /-- The heights of the members behind the last operator, the latest first. -/
  members : List Nat
  /-- The height of what stands before the last operator. -/
  operand : Option Nat
deriving Repr

namespace OpenSet

def empty : OpenSet := ⟨true, [], none⟩

/-- Takes in a member. -/
def join (set : OpenSet) (height : Nat) : OpenSet :=
  { set with members := height :: set.members }

/-- The height of all that stands in the bracket. -/
def height (set : OpenSet) : Nat :=
  match set.operand with
  | none => heightOfParts set.members
  | some operand => max operand (heightOfParts set.members) + 1

/-- Takes in an operator. -/
def operate (set : OpenSet) : OpenSet :=
  ⟨false, [], some set.height⟩

end OpenSet

/-- Reads what follows an opening bracket. The complement of a set holds characters of all
scripts. -/
def openSet (flags : PatternFlags) (text : List Char) : Option (List Char) :=
  match flags.skip text with
  | '^' :: rest => if flags.allScripts then some rest else none
  | rest => some rest

/-- Is it an operator between sets? -/
def isSetOperator (first : Char) (rest : List Char) : Bool :=
  "&-~".toList.contains first && rest.head? == some first

/-- Reads a set that is open inside of others, up to the bracket that closes all, and tells its
height. Hyphens right behind an opening bracket stand for themselves, and so does a closing one. -/
def readSet (flags : PatternFlags) :
    Nat → OpenSet → List OpenSet → List Char → Option (Nat × List Char)
  | 0, _, _, _ => none
  | fuel + 1, set, outer, text =>
      match flags.skip text with
      | [] => none
      | char :: rest =>
          if set.opening ∧ (char = '-' ∨ char = ']' ∧ set.members = []) then do
            guard flags.canFold
            readSet flags fuel { set.join 0 with opening := char = '-' } outer rest
          else
            let set := { set with opening := false }
            if char = '[' then
              match namedSet? rest with
              | some (negated, rest) => do
                  guard (flags.canFold ∧ (flags.allScripts ∨ !negated))
                  readSet flags fuel (set.join 0) outer rest
              | none => (openSet flags rest).bind (readSet flags fuel .empty (set :: outer))
            else if char = ']' then
              match outer with
              | [] => some (set.height + 1, rest)
              | next :: outer => readSet flags fuel (next.join (set.height + 1)) outer rest
            else if isSetOperator char rest then readSet flags fuel set.operate outer rest.tail
            else (readMembers flags (char :: rest)).bind (readSet flags fuel (set.join 0) outer)

end LightningMetrics.Logging

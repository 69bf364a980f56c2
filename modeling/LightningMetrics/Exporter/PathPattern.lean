/-!
Patterns of paths. In a pattern `:name` stands for what is left of a segment and `*name` for what
is left of the path. What is left may be nothing only in a segment that another one follows. A
pattern without them fits itself alone (`fits_literal`).
-/

set_option autoImplicit false

namespace LightningMetrics.Exporter

/-- A part of a path pattern. -/
inductive PathPart where
  | char (char : Char)
  /-- What is left of a segment, at least one character in the last segment. -/
  | parameter
  /-- What is left of the path, at least one character. -/
  | remainder
deriving DecidableEq, Repr

abbrev PathPattern := List PathPart

namespace PathPattern

/-- The parts of a pattern, read inside the name of a parameter or outside. -/
def partsOf (inName : Bool) : List Char → PathPattern
  | [] => []
  | char :: rest =>
      if char = '/' then .char '/' :: partsOf false rest
      else if inName then partsOf true rest
      else if char = ':' then .parameter :: partsOf true rest
      else if char = '*' then [.remainder]
      else .char char :: partsOf false rest

def ofText (text : String) : PathPattern :=
  partsOf false text.toList

/-- Does the path fit the pattern? -/
def fits : PathPattern → List Char → Bool
  | [], path => path.isEmpty
  | .remainder :: _, path => !path.isEmpty
  | .parameter :: rest, path =>
      (!rest.isEmpty || !(path.takeWhile (· != '/')).isEmpty) &&
        fits rest (path.dropWhile (· != '/'))
  | .char _ :: _, [] => false
  | .char expected :: rest, char :: path => char == expected && fits rest path

/-- The characters in front of the first parameter or remainder. -/
def literalStart : PathPattern → List Char
  | .char char :: rest => char :: literalStart rest
  | _ => []

/-- Does the pattern part from a path before its end, by a parameter or remainder of its own? -/
def partsFrom (pattern : PathPattern) (path : List Char) : Bool :=
  let start := pattern.literalStart
  start.isPrefixOf path && start != path

/-- Plain characters fit themselves and nothing else. -/
theorem fits_literal (pattern path : List Char) :
    fits (pattern.map .char) path = true ↔ path = pattern := by
  induction pattern generalizing path with
  | nil => simp [fits]
  | cons expected rest ih => cases path <;> simp [fits, ih]

end PathPattern

end LightningMetrics.Exporter

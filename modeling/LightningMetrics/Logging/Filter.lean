import LightningMetrics.Logging.ValuePattern
import LightningMetrics.Text.Fields

/-!
Log filters. A filter is a list of directives separated by commas, each a level, a target, or a
target with a level, perhaps with the span or the field that an event must have. Of the directives
that concern an event the closest one decides whether the event is shown.
-/

set_option autoImplicit false

namespace LightningMetrics.Logging

inductive Level where
  | off
  | error
  | warn
  | info
  | debug
  | trace
deriving DecidableEq, Repr

namespace Level

/-- All levels, each showing more than the one before. -/
def all : List Level := [off, error, warn, info, debug, trace]

def text : Level → String
  | off => "off"
  | error => "error"
  | warn => "warn"
  | info => "info"
  | debug => "debug"
  | trace => "trace"

def rank (level : Level) : Nat :=
  all.idxOf level

/-- A number up to five, or a name in either case. -/
def ofText? (text : List Char) : Option Level :=
  match Text.word? text with
  | some number => all[number.toNat]?
  | none => all.find? fun level => level.text.toList == text.map Char.toLower

end Level

inductive FilterError where
  | level
  | directive
  | value (fault : PatternFault)
deriving DecidableEq, Repr

def FilterError.message : FilterError → String
  | level =>
      "error parsing level filter: expected one of \"off\", \"error\", \"warn\", \"info\", " ++
        "\"debug\", \"trace\", or a number 0-5"
  | directive => "invalid filter directive"
  | value fault => "invalid field filter: " ++ fault.message

/-- What a directive chooses events by. A span or the value of a field is looked for in the
surroundings of an event, so such a directive says nothing about an event that has none. -/
structure Directive where
  target : Option (List Char)
  inSpan : Bool
  /-- The name of a field that an event must have. -/
  field : Option (List Char)
  byValue : Bool
  level : Level
deriving DecidableEq, Repr

/-- A directive without a level shows everything that it concerns. -/
def Directive.everything : Directive := ⟨none, false, none, false, .trace⟩

/-! ### Reading a directive -/

/-- Where in a directive the reader is. A number tells at which byte the piece that is being read
began. -/
inductive Reading where
  | start
  /-- In a word that may be a level or a target. -/
  | word (since : Nat)
  | span (since : Nat)
  | field (since : Nat)
  | afterField
  | afterBracket
  | level (since : Nat)
deriving DecidableEq, Repr

/-- A directive that has been read up to some place. -/
structure DirectiveDraft where
  reading : Reading
  directive : Directive
deriving DecidableEq, Repr

/-- The characters from one byte on. -/
def dropBytes : Nat → List Char → List Char
  | 0, text => text
  | _, [] => []
  | count, char :: rest => dropBytes (count - char.utf8Size) rest

/-- The characters that begin before some byte. -/
def takeBytes : Nat → List Char → List Char
  | 0, _ => []
  | _, [] => []
  | count, char :: rest => char :: takeBytes (count - char.utf8Size) rest

/-- The characters between two bytes. -/
def piece (text : List Char) (since before : Nat) : List Char :=
  takeBytes (before - since) (dropBytes since text)

/-- What a missing level stands for. -/
def levelOr (text : List Char) : Except FilterError Level :=
  if text = [] then .ok .trace
  else (Level.ofText? text).elim (.error .level) .ok

namespace Directive

/-- Sets the field: a name, and perhaps a value to compare with. -/
def withField (directive : Directive) (text : List Char) : Except FilterError Directive :=
  if text = [] then .error .directive
  else
    match Text.fields '=' text with
    | name :: value :: _ =>
        match valueFault? value with
        | some fault => .error (.value fault)
        | none => .ok { directive with field := some name, byValue := true }
    | _ => .ok { directive with field := some text }

/-- A single word is a level, or else a target. -/
def ofWord (text : List Char) : Directive :=
  match Level.ofText? text with
  | some level => { everything with level }
  | none => { everything with target := some text }

end Directive

namespace DirectiveDraft

def start : DirectiveDraft := ⟨.start, .everything⟩

/-- Reads one more character, which begins at byte `place`. Pieces are cut from `source`. -/
def read (source : List Char) (draft : DirectiveDraft) (place : Nat) (char : Char) :
    Except FilterError DirectiveDraft :=
  let directive := draft.directive
  match draft.reading with
  | .start =>
      if char = '[' then .ok { draft with reading := .span (place + 1) }
      else if "-:_".toList.contains char || Text.isAlphanumeric char then
        .ok { draft with reading := .word place }
      else .error .directive
  | .word since =>
      let targeted := { directive with target := some (piece source since place) }
      if char = '=' then .ok ⟨.level (place + 1), targeted⟩
      else if char = '[' then .ok ⟨.span (place + 1), targeted⟩
      else .ok draft
  | .span since =>
      if char = ']' then .ok ⟨.afterBracket, { directive with inSpan := true }⟩
      else if char = '\x7b' then
        .ok ⟨.field (place + 1), { directive with inSpan := decide (piece source since place ≠ []) }⟩
      else .ok draft
  | .field since =>
      if char = '\x7d' then
        (directive.withField (piece source since place)).map (⟨.afterField, ·⟩)
      else .ok draft
  | .afterField =>
      if char = ']' then .ok { draft with reading := .afterBracket } else .error .directive
  | .afterBracket =>
      if char = '=' then .ok { draft with reading := .level (place + 1) } else .error .directive
  | .level _ => .ok draft

/-- Reads all characters, the first of which begins at byte `place`. -/
def readAll (source : List Char) (draft : DirectiveDraft) (place : Nat) :
    List Char → Except FilterError DirectiveDraft
  | [] => .ok draft
  | char :: rest => do
      (← draft.read source place char).readAll source (place + char.utf8Size) rest

/-- The directive, where it may end. -/
def finish (source : List Char) (draft : DirectiveDraft) : Except FilterError Directive :=
  match draft.reading with
  | .word since => .ok (.ofWord (dropBytes since source))
  | .level since => return { draft.directive with level := ← levelOr (dropBytes since source) }
  | .afterBracket => .ok draft.directive
  | _ => .error .directive

end DirectiveDraft

namespace Directive

/-- Reads a directive. Blanks around it are passed over, but places are counted from its first
character and pieces cut from the text with its blanks, so that blanks in front shift the pieces and
those behind belong to the last one. -/
def ofText (text : List Char) : Except FilterError Directive := do
  (← DirectiveDraft.start.readAll text 0 (Text.trim text)).finish text

/-- Can the directive decide on an event outside all spans? -/
def isStatic (directive : Directive) : Bool :=
  !directive.inSpan && !directive.byValue

end Directive

/-! ### Filters -/

/-- An event of the log, as far as filters look at it. -/
structure LogEvent where
  target : String
  level : Level
  fields : List String
deriving DecidableEq, Repr

namespace Directive

/-- Does the directive concern the event? -/
def concerns (directive : Directive) (event : LogEvent) : Bool :=
  directive.isStatic &&
    (match directive.target with
      | none => true
      | some target => target.isPrefixOf event.target.toList) &&
    directive.field.all fun name => event.fields.contains (String.ofList name)

/-- How closely a directive describes events by their target. -/
def targetSize (directive : Directive) : Nat :=
  (directive.target.map fun target => target.length + 1).getD 0

/-- Does the second directive describe events at least as closely as the first? A longer target is
closer, and of two alike the one that names a field. Of two fields the one that comes later in the
alphabet is taken to be closer. -/
def yieldsTo (first second : Directive) : Bool :=
  decide (first.targetSize < second.targetSize) ||
    first.targetSize == second.targetSize &&
      match first.field, second.field with
      | none, _ => true
      | some _, none => false
      | some name, some other => (compare (String.ofList name) (String.ofList other)).isLE

end Directive

abbrev Filter := List Directive

namespace Filter

/-- Reads a filter. Empty parts do not count; a filter without directives shows nothing. -/
def ofText (text : String) : Except FilterError Filter :=
  ((Text.fields ',' text.toList).filter (· ≠ [])).mapM Directive.ofText

/-- The directive that decides on an event: the closest one, and of two alike the later one. -/
def deciding? (filter : Filter) (event : LogEvent) : Option Directive :=
  (filter.filter (·.concerns event)).foldl (fun best directive =>
    match best with
    | none => some directive
    | some held => if held.yieldsTo directive then some directive else best) none

/-- Is the event shown? -/
def shows (filter : Filter) (event : LogEvent) : Bool :=
  match filter.deciding? event with
  | none => false
  | some directive => event.level.rank ≤ directive.level.rank

end Filter

end LightningMetrics.Logging

import LightningMetrics.Config.Draft

/-!
Reading the command line. A value follows its option as the next argument or, after an equals
sign, in the same one. A value that follows is read only when the next option is met or nothing
is left, so that an argument that does not belong is reported before a value that cannot be read.
-/

set_option autoImplicit false

namespace LightningMetrics.CommandLine

/-- An argument by its form. -/
inductive Argument where
  /-- Two dashes alone. -/
  | separator
  /-- Two dashes and a name, with what follows an equals sign. -/
  | long (name : String) (attached : Option String)
  /-- One dash and at least one letter. -/
  | short (letter : Char) (others : List Char)
  /-- All else, a single dash included. -/
  | word (text : String)
deriving DecidableEq, Repr

def Argument.ofText (text : String) : Argument :=
  match text.toList with
  | ['-', '-'] => .separator
  | '-' :: '-' :: rest =>
      match Text.cut? ['='] rest with
      | none => .long (String.ofList rest) none
      | some (name, attached) => .long (String.ofList name) (some (String.ofList attached))
  | '-' :: letter :: others => .short letter others
  | _ => .word text

/-- The texts that can be asked for, by option and letter. -/
def requests : List (String × Char × Refusal) :=
  [("help", 'h', .help), ("version", 'V', .version)]

structure Scan where
  draft : Draft
  /-- The option that was met last, with the value that followed it. -/
  pending : Option (Setting × Option String)

namespace Scan

def start : Scan := ⟨.empty, none⟩

/-- Reads a value into its setting, which must not have been given before. -/
def give (scan : Scan) (setting : Setting) (text : String) : Except Refusal Scan :=
  if scan.draft.has setting then .error .repeated
  else return { scan with draft := ← scan.draft.assign setting text }

/-- Reads the value of the option that was met last. -/
def settle (scan : Scan) : Except Refusal Scan :=
  match scan.pending with
  | none => .ok scan
  | some (_, none) => .error .invalidValue
  | some (setting, some text) => give { scan with pending := none } setting text

/-- Takes in a known option. -/
def option (scan : Scan) (setting : Setting) (attached : Option String) : Except Refusal Scan :=
  match setting.isSwitch, attached with
  | true, some _ => .error .unneededValue
  | true, none => do (← scan.settle).give setting "true"
  | false, some text => do (← scan.settle).give setting text
  | false, none => return { ← scan.settle with pending := some (setting, none) }

/-- Takes in a request for a text, which ends the reading. -/
def request (scan : Scan) (asked : Refusal) (attached : Option String) : Except Refusal Scan :=
  match attached with
  | some _ => .error .unneededValue
  | none => do
      let _ ← scan.settle
      .error asked

/-- Takes in one argument other than the separator. -/
def argument (scan : Scan) : Argument → Except Refusal Scan
  | .separator => .error .unknownArgument
  | .long name attached =>
      match Setting.ofOption? name, requests.find? (·.1 == name) with
      | some setting, _ => scan.option setting attached
      | none, some (_, _, asked) => scan.request asked attached
      | none, none => .error .unknownArgument
  | .short letter _ =>
      match requests.find? (·.2.1 == letter) with
      | some (_, _, asked) => scan.request asked none
      | none => .error .unknownArgument
  | .word text =>
      match scan.pending with
      | some (setting, none) => .ok { scan with pending := some (setting, some text) }
      | _ => .error .unknownArgument

/-- Takes in all arguments. Nothing may follow the separator. -/
def arguments (scan : Scan) : List String → Except Refusal Scan
  | [] => scan.settle
  | text :: rest =>
      match Argument.ofText text with
      | .separator => if rest.isEmpty then scan.settle else .error .unknownArgument
      | argument => do (← scan.argument argument).arguments rest

end Scan

/-- The configuration that a command line and an environment give: an argument wins over its
variable, and that over the default. -/
def parse (arguments : List String) (environment : String → Option String) :
    Except Refusal Config := do
  let scan ← Scan.start.arguments arguments
  (← scan.draft.fill environment).complete

end LightningMetrics.CommandLine

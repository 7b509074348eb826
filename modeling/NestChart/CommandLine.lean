import NestChart.Settings
import NestChart.Text.Basic

/-!
# NestChart.CommandLine

The command line: one path and flags. Arguments are read from left to right up to the first that
settles the outcome; whether the flags agree and the path is there is asked at the end. Flags win
over the settings of the configuration file.
-/

namespace NestChart

inductive Flag
  | ansi
  | plain
  | html
  | ascii
  | unicode
  | numbers
  | view
  deriving Repr, DecidableEq

namespace Flag

def all : List Flag := [ansi, plain, html, ascii, unicode, numbers, view]

def name : Flag → Chars
  | ansi => "ansi".toList
  | plain => "plain".toList
  | html => "html".toList
  | ascii => "ascii".toList
  | unicode => "unicode".toList
  | numbers => "numbers".toList
  | view => "view".toList

def ofName? (name : Chars) : Option Flag := all.find? (·.name == name)

def output? : Flag → Option OutputFormat
  | ansi => some .ansi
  | plain => some .plain
  | html => some .html
  | _ => none

def border? : Flag → Option BorderStyle
  | ascii => some .ascii
  | unicode => some .unicode
  | _ => none

end Flag

/-- Why a command line asks for no chart. -/
inductive UsageError
  | missingPath
  | unknownArgument
  /-- Two flags exclude each other, or one is given twice. -/
  | conflict
  /-- A flag is given a value. -/
  | surplusValue
  | emptyPath
  | help
  | version
  deriving Repr, DecidableEq

/-- Asking for help or the version is no failure. -/
def UsageError.isFailure : UsageError → Bool
  | help | version => false
  | _ => true

/-- A path and flags, each at most once. -/
structure CommandLine where
  path : Chars
  flags : List Flag
  deriving Repr, DecidableEq

namespace CommandLine

/-- Arguments as far as they have been read. -/
structure Partial where
  path? : Option Chars
  flags : List Flag
  deriving Repr, DecidableEq

/-- The path is taken once the next flag or the end shows that it is whole; it must not be
empty. -/
def Partial.check (p : Partial) : Except UsageError Unit :=
  if p.path? = some [] then .error .emptyPath else .ok ()

def Partial.addPath (p : Partial) (path : Chars) : Except UsageError Partial :=
  if p.path?.isSome then .error .unknownArgument else .ok { p with path? := some path }

def Partial.addFlag (p : Partial) (f : Flag) : Except UsageError Partial := do
  p.check
  if f ∈ p.flags then .error .conflict else .ok { p with flags := p.flags ++ [f] }

/-- Stops for help or the version. -/
def Partial.stop (p : Partial) (e : UsageError) : Except UsageError Partial := do
  p.check
  .error e

/-- An argument that begins with two dashes. -/
def Partial.addLong (p : Partial) (text : Chars) : Except UsageError Partial :=
  let name := text.takeWhile (· ≠ '=')
  let valued := name.length < text.length
  let known (next : Except UsageError Partial) := if valued then .error .surplusValue else next
  if name = "help".toList then known (p.stop .help)
  else if name = "version".toList then known (p.stop .version)
  else
    match Flag.ofName? name with
    | some f => known (p.addFlag f)
    | none => .error .unknownArgument

/-- One argument before a `--`. -/
def Partial.add (p : Partial) (argument : Chars) : Except UsageError Partial :=
  match argument with
  | '-' :: '-' :: text => p.addLong text
  | '-' :: 'h' :: _ => p.stop .help
  | '-' :: 'V' :: _ => p.stop .version
  | '-' :: _ :: _ => .error .unknownArgument
  | _ => p.addPath argument

/-- Arguments in order; behind `--` all are paths. -/
def Partial.addAll (p : Partial) (open? : Bool) : List Chars → Except UsageError Partial
  | [] => .ok p
  | a :: rest =>
    if open? then
      if a = ['-', '-'] then p.addAll false rest
      else (p.add a).bind fun p => p.addAll true rest
    else (p.addPath a).bind fun p => p.addAll false rest

/-- More than one of a kind is given. -/
def clashes {α : Type} (kind? : Flag → Option α) (flags : List Flag) : Bool :=
  1 < (flags.filterMap kind?).length

/-- Reads the arguments of a call. -/
def parse (arguments : List Chars) : Except UsageError CommandLine := do
  let p ← Partial.addAll ⟨none, []⟩ true arguments
  p.check
  if clashes Flag.output? p.flags || clashes Flag.border? p.flags then .error .conflict
  else
    match p.path? with
    | some path => .ok ⟨path, p.flags⟩
    | none => .error .missingPath

/-- The output format that a flag asks for. -/
def output? (c : CommandLine) : Option OutputFormat := c.flags.findSome? Flag.output?

/-- The border style that a flag asks for. -/
def border? (c : CommandLine) : Option BorderStyle := c.flags.findSome? Flag.border?

/-- Settings with the flags in force. -/
def apply (c : CommandLine) (s : Settings) : Settings :=
  { s with
    output := c.output?.getD s.output
    border := c.border?.getD s.border
    showLineNumbers := s.showLineNumbers || Flag.numbers ∈ c.flags }

end CommandLine
end NestChart

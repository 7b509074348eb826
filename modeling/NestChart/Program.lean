import NestChart.Chart
import NestChart.CommandLine
import NestChart.Config
import NestChart.Config.Location

/-!
# NestChart.Program

One call of the program as a function of its arguments, its files and its environment. The language
is chosen first, then the source is read, then the configuration, so the first of several faults is
the one that is told.
-/

namespace NestChart.Program

/-- Why a call fails. -/
inductive Failure
  | language (e : LanguageError)
  | unreadable (path : Chars) (cause : ReadError)
  | config (path : Chars) (e : ConfigError)
  deriving Repr, DecidableEq

/-- The error with its causes, from the outermost to the innermost. The cause of an unreadable
configuration file is told by the error about the file and once more on its own. -/
def Failure.message : Failure → Chars
  | .language e => e.message
  | .unreadable path cause =>
    "cannot read '".toList ++ path ++ "': ".toList ++ cause.message
  | .config path e =>
    "invalid config file '".toList ++ path ++ "': ".toList ++ e.message ++
      match e with
      | .unreadable _ cause => ": ".toList ++ cause.message
      | .malformed _ => []

/-- What is drawn: a source, its language and the settings in force. -/
structure Job where
  language : Language
  source : Chars
  settings : Settings
  deriving Repr, DecidableEq

/-- The chart of a job, if it can be drawn. -/
def Job.chart? (j : Job) : Option Chars := Chart.render? j.language j.settings j.source

/-- Finds out what a command line asks to draw. -/
def job (fs : Files) (env : Config.Environment) (c : CommandLine) : Except Failure Job :=
  match Language.ofPath c.path with
  | .error e => .error (.language e)
  | .ok language =>
    match fs.read c.path with
    | .error cause => .error (.unreadable c.path cause)
    | .ok source =>
      let configPath := Config.path env
      match Config.loadOrDefault fs configPath with
      | .error e => .error (.config configPath e)
      | .ok config => .ok ⟨language, source, c.apply config.render⟩

/-- What a call leaves: its exit code, its output and its error message. -/
structure Outcome where
  exitCode : Nat
  output : Chars
  error? : Option Chars
  deriving Repr, DecidableEq

/-- What is left of a call that is stopped while it draws: the exit code that a shell gives to a
program ended by a signal. -/
def Outcome.stopped : Outcome := ⟨134, [], none⟩

/-- The outcome of a call that draws to its output. -/
def run (fs : Files) (env : Config.Environment) (arguments : List Chars) : Outcome :=
  match CommandLine.parse arguments with
  | .error e => ⟨if e.isFailure then 1 else 0, [], none⟩
  | .ok c =>
    match job fs env c with
    | .error e => ⟨1, [], some ("Error: ".toList ++ e.message)⟩
    | .ok j =>
      match j.chart? with
      | some chart => ⟨0, chart, none⟩
      | none => .stopped

end NestChart.Program

import NestChart.Files
import NestChart.Settings
import NestChart.Toml.Document

/-!
# NestChart.Config

The configuration file: a table for drawing and a table for the server, each optional. A file that
is missing configures nothing; one that cannot be read or breaks a rule is an error.
-/

namespace NestChart

structure ServerSettings where
  port : Nat
  /-- Uploads with more bytes are refused. -/
  maxUploadBytes : Nat
  deriving Repr, DecidableEq

namespace ServerSettings

def default : ServerSettings := ⟨8082, 1024 * 1024⟩

def fieldNames : List String := ["port", "max_upload_bytes"]

/-- Ports have 16 bits. -/
def portBound : Nat := Nat.pow 2 16

def ofFields? (fields : List (String × Value)) : Option ServerSettings := do
  let port ← Value.field? fields "port" (Value.natBelow? portBound) default.port
  let maxUploadBytes ← Value.field? fields "max_upload_bytes"
    (Value.natBelow? Settings.numberBound) default.maxUploadBytes
  return ⟨port, maxUploadBytes⟩

def decode? (d : Dialect) (v : Value) : Option ServerSettings :=
  (v.fieldsOf? d fieldNames).bind ofFields?

end ServerSettings

structure Config where
  render : Settings
  server : ServerSettings
  deriving Repr, DecidableEq

/-- Why a configuration file is of no use; the path is the one that was tried. -/
inductive ConfigError
  | unreadable (path : Chars) (cause : ReadError)
  | malformed (path : Chars)
  deriving Repr, DecidableEq

def ConfigError.message : ConfigError → Chars
  | .unreadable path cause =>
    "Failed to read config file at ".toList ++ path ++ ": ".toList ++ cause.message
  | .malformed path => "Failed to parse config file at ".toList ++ path

namespace Config

def default : Config := ⟨.default, .default⟩

def decode? (d : Dialect) (v : Value) : Option Config := do
  let fields ← v.fieldsOf? d ["render", "server"]
  let render ← Value.field? fields "render" (Settings.decode? d) default.render
  let server ← Value.field? fields "server" (ServerSettings.decode? d) default.server
  return ⟨render, server⟩

/-- The configuration that a text describes. -/
def parse? (text : Chars) : Option Config := (Toml.document? text).bind (decode? .toml)

/-- Loads the file at a path, if there is one. -/
def load (fs : Files) (path : Chars) : Except ConfigError (Option Config) :=
  match fs.entry path with
  | .error _ => .ok none
  | .ok e =>
    match Files.textOf e with
    | .error cause => .error (.unreadable path cause)
    | .ok text =>
      match parse? text with
      | some config => .ok (some config)
      | none => .error (.malformed path)

/-- Loads the file at a path; without one everything has its default. -/
def loadOrDefault (fs : Files) (path : Chars) : Except ConfigError Config :=
  (load fs path).map fun config? => config?.getD default

end Config
end NestChart

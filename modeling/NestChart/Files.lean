import NestChart.Path
import NestChart.Text.Encoding

/-!
# NestChart.Files

A working directory and what it holds. Reading a text file can fail for the reasons that an
operating system gives.
-/

namespace NestChart

/-- What stands under a name. -/
inductive Entry
  | file (content : Bytes)
  | directory
  deriving Repr, DecidableEq

/-- Why a file cannot be read as text. -/
inductive ReadError
  | notFound
  | notADirectory
  | isADirectory
  | notUtf8
  deriving Repr, DecidableEq

def ReadError.message : ReadError → Chars
  | .notFound => "No such file or directory (os error 2)".toList
  | .notADirectory => "Not a directory (os error 20)".toList
  | .isADirectory => "Is a directory (os error 21)".toList
  | .notUtf8 => "stream did not contain valid UTF-8".toList

/-- The entries of a working directory, each under the parts of its path. -/
structure Files where
  entries : List (List Chars × Entry)
  deriving Repr, DecidableEq

namespace Files

/-- Files named by paths. -/
def ofPaths (files : List (Chars × Entry)) : Files :=
  ⟨files.map fun f => (Path.parts f.1, f.2)⟩

/-- What stands at a place; the directories on the way to an entry are there too. -/
def at? (fs : Files) (place : List Chars) : Option Entry :=
  match fs.entries.lookup place with
  | some e => some e
  | none =>
    if place.isEmpty || fs.entries.any (fun e => place.isPrefixOf e.1) then some .directory
    else none

/-- Goes along the parts of a path from a directory. Nothing outside the working directory is
known. -/
def walk (fs : Files) (place : List Chars) : List Chars → Except ReadError (List Chars)
  | [] => .ok place
  | part :: rest =>
    match fs.at? place with
    | none => .error .notFound
    | some (.file _) => .error .notADirectory
    | some .directory =>
      if part = ['.', '.'] then
        if place.isEmpty then .error .notFound else walk fs place.dropLast rest
      else walk fs (place ++ [part]) rest

/-- The path can only name a directory. -/
def endsAsDirectory (path : Chars) : Bool :=
  path.getLast? == some '/' || ['/', '.'].isSuffixOf path

/-- What a path names. -/
def entry (fs : Files) (path : Chars) : Except ReadError Entry :=
  if path.head? = some '/' then .error .notFound
  else
    match fs.walk [] (Path.parts path) with
    | .error e => .error e
    | .ok place =>
      match fs.at? place with
      | none => .error .notFound
      | some .directory => .ok .directory
      | some (.file content) =>
        if endsAsDirectory path then .error .notADirectory else .ok (.file content)

/-- The text of an entry. -/
def textOf : Entry → Except ReadError Chars
  | .directory => .error .isADirectory
  | .file content =>
    match Text.ofUtf8? content with
    | some text => .ok text
    | none => .error .notUtf8

/-- Reads a text file. -/
def read (fs : Files) (path : Chars) : Except ReadError Chars := (fs.entry path).bind textOf

end Files
end NestChart

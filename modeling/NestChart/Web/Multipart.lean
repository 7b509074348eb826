import NestChart.Web.Form

/-!
# NestChart.Web.Multipart

Bodies in several parts, as a host may send and read them. A boundary line begins each part;
headers, an empty line and the content follow; a boundary with two more dashes ends the body. `read`
gives the parts in order as far as the body is well formed. A header names its part by attributes
such as `name="file"`.
-/

namespace NestChart.Web

open Text

namespace Multipart

def bytes (s : String) : Bytes := toUtf8 s.toList

def lineEnd : Bytes := [13, 10]

def emptyLine : Bytes := lineEnd ++ lineEnd

def dashes : Bytes := [45, 45]

/-- What begins a boundary line. -/
def delimiter (boundary : Chars) : Bytes := dashes ++ toUtf8 boundary

/-! ## Writing -/

def parameter (name : String) : Option Chars → Bytes
  | some value => bytes ("; " ++ name ++ "=\"") ++ toUtf8 value ++ bytes "\""
  | none => []

def encodePart (boundary : Chars) (p : Part) : Bytes :=
  delimiter boundary ++ lineEnd ++ bytes "Content-Disposition: form-data" ++
    parameter "name" p.name? ++ parameter "filename" p.filename? ++ emptyLine ++ p.content ++
    lineEnd

/-- A body of parts. -/
def encode (boundary : Chars) (ps : List Part) : Bytes :=
  ps.flatMap (encodePart boundary) ++ delimiter boundary ++ dashes ++ lineEnd

/-! ## Headers of a part -/

/-- Cuts the text around the first place where `mark` stands. -/
def cutAt? (mark : Bytes) : Bytes → Option (Bytes × Bytes)
  | [] => none
  | b :: bs =>
    if mark.isPrefixOf (b :: bs) then some ([], (b :: bs).drop mark.length)
    else (cutAt? mark bs).map fun r => (b :: r.1, r.2)

def charOf (b : UInt8) : Char := Char.ofNat b.toNat

/-- A byte of a header's name. -/
def isNameByte (b : UInt8) : Bool :=
  b.toNat < 0x80 && ((charOf b).isAlphanum || "!#$%&'*+-.^_|~".toList.contains (charOf b) ||
    b == 96)

/-- A byte of a header's value. -/
def isValueByte (b : UInt8) : Bool := b == 9 || (0x20 ≤ b && b != 0x7F)

def isGap (b : UInt8) : Bool := b == 9 || b == 32

def trimGaps (bs : Bytes) : Bytes :=
  ((bs.dropWhile isGap).reverse.dropWhile isGap).reverse

/-- The name, in small letters, and the value of a header line. -/
def header? (line : Bytes) : Option (Chars × Bytes) :=
  let name := line.takeWhile isNameByte
  match line.dropWhile isNameByte with
  | 58 :: value =>
    if !name.isEmpty && value.all isValueByte then
      some (name.map fun b => (charOf b).toLower, trimGaps value)
    else none
  | _ => none

/-- Cuts at line feeds and drops the carriage return before each; `current` holds the line read so
far, last byte first. -/
def headerLinesFrom (current : Bytes) : Bytes → List Bytes
  | [] => [current.reverse]
  | 10 :: bs =>
    (match current with
      | 13 :: r => r.reverse
      | r => r.reverse) :: headerLinesFrom [] bs
  | b :: bs => headerLinesFrom (b :: current) bs

/-- Headers that a part may have. -/
def headerLimit : Nat := 32

/-- The headers up to the first empty line. -/
def headers? (block : Bytes) : Option (List (Chars × Bytes)) :=
  let lines := (headerLinesFrom [] block).takeWhile fun l => !l.isEmpty
  if lines.length ≤ headerLimit then lines.mapM header? else none

/-! ## Attributes of a header -/

/-- A byte that separates words: tab, line feed, form feed, carriage return or space. -/
def isBlank (b : UInt8) : Bool := b == 9 || b == 10 || b == 12 || b == 13 || b == 32

/-- What stands behind the first `key` that begins a word: at the head of the text, behind a blank
or behind a semicolon. Right behind a `key` that begins none, a word begins anew. -/
def afterKey? (key : Bytes) : Nat → Option UInt8 → Bytes → Option Bytes
  | 0, _, _ => none
  | _, _, [] => none
  | fuel + 1, last?, b :: bs =>
    if key.isPrefixOf (b :: bs) then
      let begins := match last? with
        | none => true
        | some l => isBlank l || l == 59
      let rest := (b :: bs).drop key.length
      if begins then some rest else afterKey? key fuel none rest
    else afterKey? key fuel (some b) bs

/-- Reads up to the closing quote; a backslash before a quote takes it into the value. -/
def quoted? : Bytes → Option Bytes
  | [] => none
  | 34 :: _ => some []
  | 92 :: 34 :: bs => (quoted? bs).map (34 :: ·)
  | b :: bs => (quoted? bs).map (b :: ·)

/-- The value behind the name of an attribute: in quotes, or up to a semicolon or a space. -/
def valueOf? (rest : Bytes) : Option Bytes :=
  match rest.dropWhile isBlank with
  | 61 :: rest =>
    match rest.dropWhile isBlank with
    | 34 :: rest => quoted? rest
    | rest => some (rest.takeWhile fun b => b != 59 && b != 32)
  | _ => none

/-- The value of an attribute. Only the first place that the name could stand at counts. -/
def attribute? (name : String) (header : Bytes) : Option Chars :=
  ((afterKey? (bytes name) (header.length + 1) none header).bind valueOf?).bind ofUtf8?

/-! ## Reading -/

/-- Whatever is wrong with a body, the same is told of it. -/
def error (status : Nat) : FormError :=
  ⟨status, "Error parsing `multipart/form-data` request".toList⟩

/-- The body breaks a rule. -/
def malformed : FormError := error 400

/-- The body is longer than it may be. -/
def overlong : FormError := error 413

/-- Passes over the rest of a boundary line. -/
def afterBoundaryLine? (bs : Bytes) : Option Bytes :=
  match bs.dropWhile isGap with
  | 13 :: 10 :: rest => some rest
  | _ => none

/-- Reads the headers of a part up to its content. The last of the headers that say how the content
is disposed names the part; without one it has no name. -/
def partHead? (bs : Bytes) : Option (Option Chars × Option Chars × Bytes) := do
  let (block, content) ← cutAt? emptyLine bs
  let headers ← headers? (block ++ emptyLine)
  let disposition? := headers.reverse.lookup "content-disposition".toList
  return (disposition?.bind (attribute? "name"), disposition?.bind (attribute? "filename"), content)

/-- Reads parts from behind a delimiter on. -/
def readFrom (delim : Bytes) : Nat → Bytes → Form
  | 0, _ => .broken malformed
  | fuel + 1, bs =>
    if dashes.isPrefixOf bs then .ended
    else
      match (afterBoundaryLine? bs).bind partHead? with
      | none => .broken malformed
      | some (name?, filename?, rest) =>
        match cutAt? (lineEnd ++ delim) rest with
        | none => .part name? filename? (.error malformed) (.broken malformed)
        | some (content, rest) => .part name? filename? (.ok content) (readFrom delim fuel rest)

/-- Reads a body; what stands before its first boundary is passed over. -/
def read (boundary : Chars) (body : Bytes) : Form :=
  let delim := delimiter boundary
  match cutAt? delim body with
  | some (_, rest) => readFrom delim (body.length + 1) rest
  | none => .broken malformed

end Multipart
end NestChart.Web

import NestChart.Text.Basic

/-!
# NestChart.Web.MediaType

The media type that a request declares, as far as an upload form needs it: the boundary between the
parts of its body.
-/

namespace NestChart.Web.MediaType

/-- A character of a token, such as a type or the name of a parameter. -/
def isTokenChar (c : Char) : Bool :=
  c.isAlphanum || "!#$%&'*+-.^_|~".toList.contains c || c.toNat == 96

/-- A character that can be sent in a header. -/
def isHeaderChar (c : Char) : Bool := (0x20 ≤ c.toNat && c.toNat < 0x7F) || c == '\t'

/-- A character that may stand between quotes. -/
def isQuotedChar (c : Char) : Bool := c.toNat > 31 && c.toNat != 127

/-- Reads a value in quotes up to the closing one. The first character is never the closing quote,
and a backslash is a character like any other. -/
def quotedValue? : Chars → Option (Chars × Chars)
  | [] => none
  | first :: cs =>
    let value := first :: cs.takeWhile (· ≠ '"')
    match cs.dropWhile (· ≠ '"') with
    | [] => none
    | _ :: rest => if value.all isQuotedChar then some (value, rest) else none

/-- Reads the value of a parameter and what separates it from the next. -/
def value? (cs : Chars) : Option (Chars × Chars) :=
  match cs with
  | '"' :: rest =>
    match quotedValue? rest with
    | none => none
    | some (value, rest) =>
      match rest.dropWhile (· == ' ') with
      | [] => some (value, [])
      | ';' :: rest => some (value, rest)
      | _ => none
  | _ =>
    let value := cs.takeWhile isTokenChar
    match cs.dropWhile isTokenChar with
    | [] => some (value, [])
    | ';' :: rest => if value.isEmpty then none else some (value, rest)
    | _ => none

/-- Reads parameters with semicolons between them; names are written in any letters. -/
def parametersFrom : Nat → Chars → Option (List (Chars × Chars))
  | 0, _ => none
  | fuel + 1, cs =>
    match cs.dropWhile (· == ' ') with
    | [] => some []
    | cs =>
      let name := cs.takeWhile isTokenChar
      match cs.dropWhile isTokenChar with
      | '=' :: rest =>
        if name.isEmpty then none
        else
          match value? rest with
          | none => none
          | some (value, rest) =>
            (parametersFrom fuel rest).map ((name.map Char.toLower, value) :: ·)
      | _ => none

/-- A type without its suffix, which stands behind the last plus sign. -/
def withoutSuffix (essence : Chars) : Chars :=
  let suffix := (essence.reverse.takeWhile (· ≠ '+')).reverse
  if suffix.length < essence.length && suffix.all isTokenChar then
    essence.take (essence.length - suffix.length - 1)
  else essence

/-- The parameters of a form upload; other types have none to offer. -/
def formParameters? (header : Chars) : Option (List (Chars × Chars)) :=
  let essence := header.takeWhile (· ≠ ';')
  if (withoutSuffix essence).map Char.toLower = "multipart/form-data".toList then
    let rest := header.dropWhile (· ≠ ';')
    parametersFrom (rest.length + 1) (rest.drop 1)
  else none

/-- The boundary that a content type declares for a form upload. -/
def boundary? (header : Chars) : Option Chars :=
  if header.all isHeaderChar then
    (formParameters? header).bind fun ps => ps.lookup "boundary".toList
  else none

end NestChart.Web.MediaType

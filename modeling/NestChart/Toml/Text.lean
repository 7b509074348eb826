import NestChart.Text.Basic

/-!
# NestChart.Toml.Text

The lexical ground of TOML: blanks, comments and strings. Each reader gives what it read and the
rest of the text, or nothing if the text is not well formed.
-/

namespace NestChart.Toml

/-- What a reader gives: the value read and the rest. -/
abbrev Read (α : Type) := Option (α × Chars)

/-- Spaces and tabs; line ends are not blank here. -/
def isSpace (c : Char) : Bool := c == ' ' || c == '\t'

/-- A control character other than the tab; none may stand as it is in a text. -/
def isControl (c : Char) : Bool := (c.toNat < 0x20 && c != '\t') || c.toNat == 0x7F

def skipSpaces (cs : Chars) : Chars := cs.dropWhile isSpace

/-- A line end at the head of the text is passed over. -/
def afterNewline? : Chars → Option Chars
  | '\n' :: cs => some cs
  | '\r' :: '\n' :: cs => some cs
  | _ => none

/-- Passes over spaces, a comment, and the line end; the end of the text ends the line too. -/
def endOfLine? (cs : Chars) : Option Chars :=
  let cs := skipSpaces cs
  let cs := if cs.head? = some '#' then cs.dropWhile fun c => !isControl c else cs
  if cs.isEmpty then some [] else afterNewline? cs

/-- Passes over spaces, comments and line ends. -/
def skipGaps : Nat → Chars → Chars
  | 0, cs => skipSpaces cs
  | fuel + 1, cs =>
    match endOfLine? cs with
    | some rest => if rest.isEmpty then [] else skipGaps fuel rest
    | none => skipSpaces cs

/-- Passes over spaces, comments and line ends, however many. -/
def skipAll (cs : Chars) : Chars := skipGaps cs.length cs

/-! ## Strings -/

def hexValue? (c : Char) : Option Nat :=
  if '0' ≤ c && c ≤ '9' then some (c.toNat - '0'.toNat)
  else if 'a' ≤ c && c ≤ 'f' then some (c.toNat - 'a'.toNat + 10)
  else if 'A' ≤ c && c ≤ 'F' then some (c.toNat - 'A'.toNat + 10)
  else none

/-- The character of a code point; surrogates have none. -/
def charOfCode? (n : Nat) : Option Char := if n.isValidChar then some (Char.ofNat n) else none

/-- The character that a letter stands for behind a backslash. -/
def escaped? (c : Char) : Option Char :=
  match c with
  | 'b' => some '\x08'
  | 't' => some '\t'
  | 'n' => some '\n'
  | 'f' => some '\x0c'
  | 'r' => some '\r'
  | 'e' => some '\x1b'
  | '"' => some '"'
  | '\\' => some '\\'
  | _ => none

/-- Where the reader of a quoted string stands. -/
inductive Escape
  | none
  /-- Behind a backslash. -/
  | backslash
  /-- In a code point: hexadecimal digits to come, and the value so far. -/
  | code (digits value : Nat)
  /-- Behind a backslash at the end of a line; `crossed` says that the line end has been read. -/
  | lineEnd (crossed : Bool)

/-- Three quotes open and close strings over several lines. -/
def isTriple (quote : Char) (cs : Chars) : Bool := [quote, quote, quote].isPrefixOf cs

/-- Up to two quotes may stand before the three that close a string over several lines. -/
def closeTriple (quote : Char) (read cs : Chars) : Chars × Chars :=
  let run := (cs.takeWhile (· == quote)).length
  (read.reverse ++ List.replicate (min run 5 - 3) quote, cs.drop (min run 5))

/-- Reads a string in double quotes from behind its opening; `read` holds its characters so far,
the last one first. -/
def quotedFrom (multiline : Bool) (read : Chars) (e : Escape) : Chars → Read Chars
  | [] => .none
  | c :: cs =>
    let isNewline := c == '\n' || (c == '\r' && cs.head? == some '\n')
    let plain : Read Chars :=
      if c = '"' then
        if !multiline then some (read.reverse, cs)
        else if isTriple '"' (c :: cs) then some (closeTriple '"' read (c :: cs))
        else quotedFrom multiline (c :: read) .none cs
      else if c = '\\' then quotedFrom multiline read .backslash cs
      else if isControl c && !(multiline && isNewline) then .none
      else quotedFrom multiline (c :: read) .none cs
    match e with
    | .none => plain
    | .backslash =>
      if c = 'x' then quotedFrom multiline read (.code 2 0) cs
      else if c = 'u' then quotedFrom multiline read (.code 4 0) cs
      else if c = 'U' then quotedFrom multiline read (.code 8 0) cs
      else if multiline && (isSpace c || isNewline) then
        quotedFrom multiline read (.lineEnd (c == '\n')) cs
      else
        match escaped? c with
        | some d => quotedFrom multiline (d :: read) .none cs
        | .none => .none
    | .code digits value =>
      match hexValue? c with
      | .none => .none
      | some d =>
        let value := value * 16 + d
        if 1 < digits then quotedFrom multiline read (.code (digits - 1) value) cs
        else
          match charOfCode? value with
          | some d => quotedFrom multiline (d :: read) .none cs
          | .none => .none
    | .lineEnd crossed =>
      if isSpace c || isNewline then quotedFrom multiline read (.lineEnd (crossed || c == '\n')) cs
      else if crossed then plain
      else .none

/-- Reads a string in single quotes, in which nothing is escaped, from behind its opening. -/
def literalFrom (multiline : Bool) (read : Chars) : Chars → Read Chars
  | [] => none
  | c :: cs =>
    if c = '\'' then
      if !multiline then some (read.reverse, cs)
      else if isTriple '\'' (c :: cs) then some (closeTriple '\'' read (c :: cs))
      else literalFrom multiline (c :: read) cs
    else if isControl c && !(multiline && (c == '\n' || (c == '\r' && cs.head? == some '\n'))) then
      none
    else literalFrom multiline (c :: read) cs

/-- A line end right behind three opening quotes does not belong to the string. -/
def afterOpening (cs : Chars) : Chars := (afterNewline? cs).getD cs

/-- Reads a string of any of the four kinds. -/
def string? (cs : Chars) : Read Chars :=
  match cs with
  | '"' :: rest =>
    if isTriple '"' cs then quotedFrom true [] .none (afterOpening (cs.drop 3))
    else quotedFrom false [] .none rest
  | '\'' :: rest =>
    if isTriple '\'' cs then literalFrom true [] (afterOpening (cs.drop 3))
    else literalFrom false [] rest
  | _ => none

/-! ## Keys -/

def isBareKeyChar (c : Char) : Bool := c.isAlphanum || c == '_' || c == '-'

/-- Reads a key: letters, digits, `_` and `-`, or a string on one line. -/
def key? (cs : Chars) : Read String :=
  match cs with
  | '"' :: rest => (quotedFrom false [] .none rest).map fun r => (String.ofList r.1, r.2)
  | '\'' :: rest => (literalFrom false [] rest).map fun r => (String.ofList r.1, r.2)
  | _ =>
    let name := cs.takeWhile isBareKeyChar
    if name.isEmpty then none else some (String.ofList name, cs.dropWhile isBareKeyChar)

/-- Reads keys with dots between them. -/
def keysFrom : Nat → Chars → Read (List String)
  | 0, _ => none
  | fuel + 1, cs =>
    match key? (skipSpaces cs) with
    | none => none
    | some (k, rest) =>
      match skipSpaces rest with
      | '.' :: rest => (keysFrom fuel rest).map fun r => (k :: r.1, r.2)
      | rest => some ([k], rest)

/-- Keys that a path may have, and arrays and inline tables that may stand in one another. -/
def depthLimit : Nat := 80

/-- Reads a path of keys and the spaces around it. -/
def keys? (cs : Chars) : Read (List String) :=
  (keysFrom (cs.length + 1) cs).bind fun r => if r.1.length ≤ depthLimit then some r else none

end NestChart.Toml

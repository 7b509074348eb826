import NestChart.Toml.Scalar
import NestChart.Toml.Text
import NestChart.Toml.Tree

/-!
# NestChart.Toml.Document

Reading a TOML document into one table. A document that breaks a rule of the language anywhere has
no value.
-/

namespace NestChart.Toml

mutual

/-- Reads a value that may hold others to a depth of `depth`; the fuel bounds how much of the text
is left to read. -/
def valueFrom (depth : Nat) : Nat → Chars → Read Value
  | 0, _ => none
  | fuel + 1, cs =>
    match cs with
    | '"' :: _ => (string? cs).map fun r => (.text (String.ofList r.1), r.2)
    | '\'' :: _ => (string? cs).map fun r => (.text (String.ofList r.1), r.2)
    | '[' :: rest =>
      if depth = 0 then none
      else (itemsFrom (depth - 1) fuel rest).map fun r => (.list r.1, r.2)
    | '\x7b' :: rest =>
      if depth = 0 then none
      else
        (pairsFrom (depth - 1) fuel [] rest).map fun r => (.table (Tree.fieldValues r.1), r.2)
    | _ =>
      let (word, rest) := Scalar.splitWord cs
      (Scalar.value? word).map fun v => (v, rest)

/-- Reads the items of an array and its closing bracket. -/
def itemsFrom (depth : Nat) : Nat → Chars → Read (List Value)
  | 0, _ => none
  | fuel + 1, cs =>
    match skipAll cs with
    | ']' :: rest => some ([], rest)
    | cs =>
      match valueFrom depth fuel cs with
      | none => none
      | some (v, rest) =>
        match skipAll rest with
        | ',' :: rest => (itemsFrom depth fuel rest).map fun r => (v :: r.1, r.2)
        | ']' :: rest => some ([v], rest)
        | _ => none

/-- Reads the fields of an inline table and its closing brace. Line ends and comments may stand
wherever a space may stand, except around the dots of a key. -/
def pairsFrom (depth : Nat) : Nat → Fields → Chars → Read Fields
  | 0, _, _ => none
  | fuel + 1, fields, cs =>
    match skipAll cs with
    | '\x7d' :: rest => some (fields, rest)
    | cs =>
      match (keys? cs).map fun r => (r.1, skipAll r.2) with
      | some (ks, '=' :: rest) =>
        match valueFrom depth fuel (skipAll rest) with
        | none => none
        | some (v, rest) =>
          match Fields.put? v ks fields with
          | none => none
          | some fields =>
            match skipAll rest with
            | ',' :: rest => pairsFrom depth fuel fields rest
            | '\x7d' :: rest => some (fields, rest)
            | _ => none
      | _ => none

end

/-- A document as far as it has been read: its tables and the header it stands under. -/
structure Reading where
  fields : Fields
  header : List String

/-- Reads a header with `brackets` brackets at each side. -/
def header? (brackets : Nat) (cs : Chars) : Read (List String) :=
  match keys? cs with
  | some (ks, rest) =>
    if (List.replicate brackets ']').isPrefixOf rest then some (ks, rest.drop brackets) else none
  | none => none

/-- Reads what stands on a line that is neither blank nor a comment. -/
def entry? (d : Reading) (cs : Chars) : Read Reading :=
  match cs with
  | '[' :: '[' :: rest =>
    match header? 2 rest with
    | some (ks, rest) =>
      match ks.getLast? with
      | some k => (Fields.within? (Fields.openItem? k) ks.dropLast d.fields).map fun fields =>
          (⟨fields, ks⟩, rest)
      | none => none
    | none => none
  | '[' :: rest =>
    match header? 1 rest with
    | some (ks, rest) =>
      match ks.getLast? with
      | some k => (Fields.within? (Fields.openTable? k) ks.dropLast d.fields).map fun fields =>
          (⟨fields, ks⟩, rest)
      | none => none
    | none => none
  | _ =>
    match keys? cs with
    | some (ks, '=' :: rest) =>
      match valueFrom depthLimit (rest.length + 1) (skipSpaces rest) with
      | some (v, rest) => (Fields.within? (Fields.put? v ks) d.header d.fields).map fun fields =>
          (⟨fields, d.header⟩, rest)
      | none => none
    | _ => none

/-- Reads line after line. -/
def linesFrom : Nat → Reading → Chars → Option Reading
  | 0, _, _ => none
  | fuel + 1, d, cs =>
    match skipAll cs with
    | [] => some d
    | cs =>
      match entry? d cs with
      | none => none
      | some (d, rest) => (endOfLine? rest).bind (linesFrom fuel d)

/-- The table of a document; a byte order mark in front is passed over. -/
def document? (text : Chars) : Option Value :=
  let cs := if text.head? = some '\ufeff' then text.tail else text
  (linesFrom (cs.length + 1) ⟨[], []⟩ cs).map fun d => .table (Tree.fieldValues d.fields)

end NestChart.Toml

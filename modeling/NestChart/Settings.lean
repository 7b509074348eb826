import NestChart.Color
import NestChart.Value

/-!
# NestChart.Settings

How a chart is drawn: widths, palette, border, output. Each setting has a default of its own and is
read independently of the others; names that are no setting are passed over. Writing settings and
reading them again gives them back.
-/

namespace NestChart

inductive BorderStyle
  /-- Drawn with `+`, `-` and `|`. -/
  | ascii
  /-- Drawn with box-drawing characters. -/
  | unicode
  deriving Repr, DecidableEq

namespace BorderStyle

def name : BorderStyle → String
  | ascii => "ascii"
  | unicode => "unicode"

def ofName? (name : String) : Option BorderStyle := [ascii, unicode].find? (·.name == name)

end BorderStyle

inductive OutputFormat
  /-- Colored by terminal escape sequences. -/
  | ansi
  /-- Without color. -/
  | plain
  /-- Markup for a page. -/
  | html
  deriving Repr, DecidableEq

namespace OutputFormat

def name : OutputFormat → String
  | ansi => "ansi"
  | plain => "plain"
  | html => "html"

def ofName? (name : String) : Option OutputFormat := [ansi, plain, html].find? (·.name == name)

end OutputFormat

structure Settings where
  /-- Width that the boxes of a row share. -/
  lineWidth : Nat
  /-- Columns for each level of depth. -/
  indentUnit : Nat
  palette : Palette
  border : BorderStyle
  output : OutputFormat
  /-- The color of comments; without one they are colored by depth. -/
  commentColor : Option Color
  /-- The line number is shown beside each box. -/
  showLineNumbers : Bool
  deriving Repr, DecidableEq

namespace Settings

def default : Settings := ⟨100, 4, .standard, .ascii, .ansi, none, false⟩

/-- Numbers in settings are below this bound. -/
def numberBound : Nat := Nat.pow 2 64

def fieldNames : List String :=
  ["line_width", "indent_unit", "palette", "border", "output", "comment_color",
    "show_line_numbers"]

/-- A list of color names with at least one entry. -/
def palette? (d : Dialect) (v : Value) : Option Palette := do
  let colors ← v.list? (Value.named? d Color.ofName?)
  (Palette.ofList colors).toOption

/-- Settings from named values. -/
def ofFields? (d : Dialect) (fields : List (String × Value)) : Option Settings := do
  let number := Value.natBelow? numberBound
  let lineWidth ← Value.field? fields "line_width" number default.lineWidth
  let indentUnit ← Value.field? fields "indent_unit" number default.indentUnit
  let palette ← Value.field? fields "palette" (palette? d) default.palette
  let border ← Value.field? fields "border" (Value.named? d BorderStyle.ofName?) default.border
  let output ← Value.field? fields "output" (Value.named? d OutputFormat.ofName?) default.output
  let commentColor ← Value.field? fields "comment_color"
    (Value.orNull? (Value.named? d Color.ofName?)) default.commentColor
  let showLineNumbers ←
    Value.field? fields "show_line_numbers" Value.bool? default.showLineNumbers
  return ⟨lineWidth, indentUnit, palette, border, output, commentColor, showLineNumbers⟩

/-- Settings from a value; nothing if one of them is ill typed or out of range. -/
def decode? (d : Dialect) (v : Value) : Option Settings :=
  (v.fieldsOf? d fieldNames).bind (ofFields? d)

/-- Settings as a value. A comment color that is not set is left out. -/
def encode (s : Settings) : Value :=
  .table ([("line_width", .int s.lineWidth), ("indent_unit", .int s.indentUnit),
    ("palette", .list (s.palette.colors.map fun c => .text c.name)),
    ("border", .text s.border.name), ("output", .text s.output.name)] ++
    (s.commentColor.map fun c => ("comment_color", Value.text c.name)).toList ++
    [("show_line_numbers", .bool s.showLineNumbers)])

end Settings
end NestChart

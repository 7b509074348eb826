import NestChart.Canvas

/-!
# NestChart.Drawing

A canvas as lines: titles, gaps, and the borders and texts of the boxes. All lines of one box have
the same length. A box can be too wide for its texts to be filled up to its width; it stops the
drawing, and there are no lines at all. How the lines are colored is left to the formats.
-/

namespace NestChart

/-- One line of a drawing. -/
inductive DrawnLine
  /-- The title of a section. -/
  | title (text : Chars)
  /-- The gap between sections and between rows. -/
  | blank
  /-- A line of a box, and perhaps a note behind it that is not colored. -/
  | boxed (offset : Nat) (color : Color) (text : Chars) (suffix? : Option Chars)
  deriving Repr, DecidableEq

/-- What borders are drawn with. -/
structure Glyphs where
  topLeft : Char
  topRight : Char
  bottomLeft : Char
  bottomRight : Char
  horizontal : Char
  vertical : Char
  deriving Repr, DecidableEq

namespace Glyphs

def ofStyle : BorderStyle → Glyphs
  | .ascii => ⟨'+', '+', '+', '+', '-', '|'⟩
  | .unicode => ⟨'┌', '┐', '└', '┘', '─', '│'⟩

/-- The largest width that a text can be filled up to: fills have 16 bits. -/
def fillLimit : Nat := 65535

/-- A horizontal rule of a width between two corners. -/
def rule (g : Glyphs) (left right : Char) (width : Nat) : Chars :=
  left :: List.replicate width g.horizontal ++ [right]

/-- A text between two vertical strokes, filled up to a width. -/
def content (g : Glyphs) (width : Nat) (text : Chars) : Chars :=
  [g.vertical, ' ', ' '] ++ text ++ List.replicate (width - text.length) ' ' ++
    [' ', ' ', g.vertical]

end Glyphs

/-- The texts of the box can be filled up to its inner width. -/
def PlacedBox.isDrawable (b : PlacedBox) : Bool :=
  b.lines.isEmpty || b.innerWidth ≤ Glyphs.fillLimit

/-- No box stops the drawing of the canvas. -/
def Canvas.isDrawable (c : Canvas) : Bool := c.boxes.all PlacedBox.isDrawable

namespace Drawing

/-- The note that names a line. -/
def lineNote (line : Nat) : Chars := "  Line ".toList ++ Nat.toDigits 10 line

/-- The lines of a box; only the first line of its text can carry a note. -/
def ofBox (g : Glyphs) (numbered : Bool) (b : PlacedBox) : List DrawnLine :=
  let boxed (text : Chars) (suffix? : Option Chars) := DrawnLine.boxed b.offset b.color text suffix?
  let texts := b.lines.zipIdx.map fun (text, i) =>
    boxed (g.content b.innerWidth text)
      (if numbered && i == 0 then some (lineNote b.line) else none)
  [boxed (g.rule g.topLeft g.topRight b.width) none] ++ texts ++
    [boxed (g.rule g.bottomLeft g.bottomRight b.width) none]

/-- Joins groups of lines with a gap between each two. -/
def withGaps (groups : List (List DrawnLine)) : List DrawnLine :=
  [DrawnLine.blank].intercalate groups

def ofSection (g : Glyphs) (numbered : Bool) (s : CanvasSection) : List DrawnLine :=
  (s.title?.map DrawnLine.title).toList ++
    withGaps (s.rows.map fun r => r.boxes.flatMap (ofBox g numbered))

/-- The lines of a canvas of any widths. -/
def ofCanvas (settings : Settings) (c : Canvas) : List DrawnLine :=
  withGaps (c.sections.map (ofSection (.ofStyle settings.border) settings.showLineNumbers))

/-- The lines of a canvas, unless one of its boxes stops the drawing. -/
def ofCanvas? (settings : Settings) (c : Canvas) : Option (List DrawnLine) :=
  if c.isDrawable then some (ofCanvas settings c) else none

end Drawing
end NestChart

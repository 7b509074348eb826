import NestChart.Section
import NestChart.Settings

/-!
# NestChart.Canvas

Boxes in their places. A box is as wide as its longest line and some padding; its depth gives its
offset and color. The boxes of a section are put into rows in order, a new row beginning where the
next box would not fit.
-/

namespace NestChart

/-- The box of one node. -/
structure PlacedBox where
  lines : List Chars
  width : Nat
  offset : Nat
  color : Color
  depth : Nat
  category : Category
  line : Nat
  deriving Repr, DecidableEq

namespace PlacedBox

/-- Columns that a box adds to its longest line. -/
def padding : Nat := 6

/-- The width of a box with these lines. -/
def widthOf (lines : List Chars) : Nat := (lines.map List.length).foldl max 0 + padding

/-- Columns for the text of a line, inside the blanks at both sides. -/
def innerWidth (b : PlacedBox) : Nat := b.width - 4

/-- The color of a node: by depth, unless it is a comment and comments have one of their own. -/
def colorOf (settings : Settings) (n : Node) : Color :=
  match n.category, settings.commentColor with
  | .comment, some color => color
  | _, _ => settings.palette.colorAt n.depth

def ofNode (settings : Settings) (n : Node) : PlacedBox where
  lines := n.textLines
  width := widthOf n.textLines
  offset := n.depth * settings.indentUnit
  color := colorOf settings n
  depth := n.depth
  category := n.category
  line := n.line

end PlacedBox

/-- Boxes that share the line width. -/
structure Row where
  boxes : List PlacedBox
  deriving Repr, DecidableEq

namespace Row

def width (r : Row) : Nat := (r.boxes.map PlacedBox.width).foldl (· + ·) 0

/-- Puts boxes behind those of the row that is being filled; that row holds them last first. -/
def packFrom (limit : Nat) (filled : List PlacedBox) : List PlacedBox → List Row
  | [] => if filled.isEmpty then [] else [⟨filled.reverse⟩]
  | b :: bs =>
    if !filled.isEmpty && limit < width ⟨filled⟩ + b.width then
      ⟨filled.reverse⟩ :: packFrom limit [b] bs
    else packFrom limit (b :: filled) bs

/-- Rows of boxes in order. A row is no wider than the limit, unless it holds a single box. -/
def pack (limit : Nat) (boxes : List PlacedBox) : List Row := packFrom limit [] boxes

end Row

/-- The rows of a section. -/
structure CanvasSection where
  title? : Option Chars
  rows : List Row
  deriving Repr, DecidableEq

/-- A chart before it is drawn. -/
structure Canvas where
  sections : List CanvasSection
  deriving Repr, DecidableEq

namespace Canvas

def isEmpty (c : Canvas) : Bool := c.sections.isEmpty

/-- All boxes, from the first section to the last. -/
def boxes (c : Canvas) : List PlacedBox :=
  c.sections.flatMap fun s => s.rows.flatMap Row.boxes

/-- Lays out sections, each on its own. -/
def ofSections (settings : Settings) (sections : List Section) : Canvas where
  sections := sections.map fun s =>
    ⟨s.title?, Row.pack settings.lineWidth (s.nodes.map (PlacedBox.ofNode settings))⟩

/-- Lays out the nodes of a flow. -/
def ofNodes (l : Language) (settings : Settings) (nodes : List Node) : Canvas :=
  ofSections settings (Section.ofNodes l nodes)

end Canvas
end NestChart

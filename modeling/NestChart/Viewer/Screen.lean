import NestChart.Text.Cluster
import NestChart.Text.Width
import NestChart.Viewer.State
import NestChart.Viewer.Style

/-!
# NestChart.Viewer.Screen

One picture of the viewer: a frame with the title in its upper edge, the lines from the scroll
position on inside it, and a line of help below.
-/

namespace NestChart.Viewer

/-- What a cell of the screen shows: a cluster, or nothing of its own behind a wide one. -/
abbrev Cell := Option Chars

/-- The text that cells show. -/
def textOf (cells : List Cell) : Chars := cells.flatMap (·.getD [' '])

/-- The clusters of a text that can be shown: those without a control character. -/
def shownClusters (text : Chars) : List Chars :=
  (clusters text).filter fun cluster => !cluster.any Cluster.isControl

/-- The cells that clusters fill, where `room` is left of a width. A cluster wider than the whole
width is passed over, as is one without a column; the first that does not fit ends the row. -/
def fill (width room : Nat) : List Chars → List Cell
  | [] => []
  | cluster :: rest =>
    let taken := columns cluster
    if width < taken then fill width room rest
    else if room < taken then []
    else if taken = 0 then fill width room rest
    else some cluster :: List.replicate (taken - 1) none ++ fill width (room - taken) rest

/-- A row of a width with texts one after another, cut at its end or filled up with blanks. -/
def row (width : Nat) (texts : List Chars) : Chars :=
  let cells := fill width width (texts.flatMap shownClusters)
  textOf cells ++ List.replicate (width - cells.length) ' '

/-- Clusters drawn over cells from a column on, up to one on the right. One without a column is
put to what the column before shows, or to what the next one will show at the start. -/
def draw (start right : Nat) (column : Nat) (cells : List Cell) : List Chars → List Cell
  | [] => cells
  | cluster :: rest =>
    let next := column + columns cluster
    if right < next then cells
    else
      let drawn :=
        if column = start then cells.modify column (·.map (· ++ cluster))
        else if next = column then cells.modify (column - 1) (·.map (· ++ cluster))
        else cells.set column (some cluster)
      let covered := drawn.take (column + 1) ++ List.replicate (next - column - 1) none ++
        drawn.drop (max next (column + 1))
      draw start right next covered rest

/-- A text drawn over cells from a column on, up to one on the right. -/
def drawText (start right : Nat) (cells : List Cell) (text : Chars) : List Cell :=
  match shownClusters text with
  | [] => cells
  | first :: rest =>
    if right < start + columns first then cells
    else draw start right start (cells.set start (some [])) (first :: rest)

/-- A text without the line feed at its end and a carriage return before it. -/
def withoutLineEnd (text : Chars) : Chars :=
  match Text.beforeLast? '\n' text with
  | some rest => (Text.beforeLast? '\r' rest).getD rest
  | none => text

/-- The caption in the upper edge. -/
def caption (v : Viewer) : Chars := v.title ++ " (".toList ++ v.language.name ++ [')']

/-- Widths on a screen have 16 bits. -/
def widthBound : Nat := 65536

/-- An edge of a width with a caption over its beginning. The lines of the caption follow one
another, each from the column where the widths of those before it end. -/
def captioned (width : Nat) (caption : Chars) : List Cell :=
  let lines := ((Text.physicalLines caption).map withoutLineEnd).filter fun l => 0 < columns l
  let right := min ((lines.map columns).foldl (· + ·) 0 % widthBound) width
  let drawn := lines.foldl (fun (cells, column) line =>
    (if column < right then drawText column right cells line else cells, column + columns line))
    (List.replicate width (some ['─']), 0)
  drawn.1

/-- A row between the edges of the frame. -/
def between (left right : Char) (width : Nat) (inner : Chars) : Chars :=
  if width = 0 then []
  else if width = 1 then [left]
  else left :: inner ++ [right]

/-- The texts of a drawn line. -/
def lineTexts (l : DrawnLine) : List Chars := (styled l).map StyledSpan.text

/-- The frame and what it shows. -/
def frame (v : Viewer) (width height : Nat) : List Chars :=
  let inner := width - 2
  let top := between '┌' '┐' width (textOf (captioned inner v.caption))
  let bottom := between '└' '┘' width (List.replicate inner '─')
  let shown := (v.lines.drop v.scroll).take (height - 2)
  let rows := (shown ++ List.replicate (height - 2 - shown.length) DrawnLine.blank).map fun l =>
    between '│' '│' width (row inner (lineTexts l))
  match height with
  | 0 => []
  | 1 => [top]
  | _ => [top] ++ rows ++ [bottom]

/-- What the keys do. -/
def help (v : Viewer) : Chars :=
  "q: Quit | ↑/k ↓/j: Scroll | +/-: Zoom (indent ".toList ++
    Nat.toDigits 10 v.settings.indentUnit ++ [')']

/-- The rows of a screen. The help takes the last of them. -/
def screen (v : Viewer) (width height : Nat) : List Chars :=
  if height = 0 then []
  else v.frame width (height - 1) ++ [row width [v.help]]

end NestChart.Viewer

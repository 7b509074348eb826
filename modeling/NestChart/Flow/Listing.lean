import NestChart.Node
import NestChart.Text.Quoted

/-!
# NestChart.Flow.Listing

A flow as text, one line for each node and then one for each anomaly. Depth is shown as a row of
dots and as a number; the text of a node is quoted, so that it stays on its line.
-/

namespace NestChart.Flow

open Text

/-- Blanks in front up to a width. -/
def padLeft (width : Nat) (cs : Chars) : Chars := List.replicate (width - cs.length) ' ' ++ cs

/-- Blanks behind up to a width. -/
def padRight (width : Nat) (cs : Chars) : Chars := cs ++ List.replicate (width - cs.length) ' '

def decimal (n : Nat) : Chars := Nat.toDigits 10 n

/-- Line, depth, category and text of a node. -/
def nodeLine (n : Node) : Chars :=
  padLeft 3 (decimal n.line) ++ [' '] ++ List.replicate n.depth '.' ++ decimal n.depth ++ [' '] ++
    padRight 11 n.category.label ++ [' '] ++ Quoted.encode n.text

/-- Line and kind of an anomaly. -/
def anomalyLine (a : Anomaly) : Chars :=
  ['!'] ++ padLeft 2 (decimal a.line) ++ [' '] ++ a.kind.message

/-- The listing, each line with its line end. -/
def listing (f : Flow) : Chars :=
  (f.nodes.map nodeLine ++ f.anomalies.map anomalyLine).flatMap (· ++ ['\n'])

end NestChart.Flow

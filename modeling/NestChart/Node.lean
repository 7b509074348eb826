import NestChart.Line

/-!
# NestChart.Node

What a source is read into: a flow of nodes, each one box of the chart, and the anomalies met on
the way. Flows append; the empty flow is neutral.
-/

namespace NestChart

/-- What kind of text a node holds. -/
inductive Category
  /-- A comment on one or more lines, or a documentation string. -/
  | comment
  /-- A preprocessor directive or an import. -/
  | directive
  /-- A variable, or the head of a function or class. -/
  | declaration
  /-- A function head closed by a terminator. -/
  | prototype
  /-- The head of a branch or loop, or a label of a choice. -/
  | controlHeader
  /-- Everything else. -/
  | statement
  deriving Repr, DecidableEq

namespace Category

/-- The word that stands for the category in a listing. -/
def label : Category → Chars
  | comment => "comment".toList
  | directive => "directive".toList
  | declaration => "declaration".toList
  | prototype => "prototype".toList
  | controlHeader => "control".toList
  | statement => "statement".toList

end Category

/-- One unit of structure. -/
structure Node where
  /-- What the box shows; a merged comment keeps its line breaks. -/
  text : Chars
  /-- How many blocks lie around it. -/
  depth : Nat
  category : Category
  /-- Line on which it starts. -/
  line : Nat
  /-- Bytes it was read from. -/
  span : Span
  deriving Repr, DecidableEq

/-- The lines that the box of a node shows, at least one. -/
def Node.textLines (n : Node) : List Chars := Text.splitLines n.text

/-- Ways in which nesting can go wrong; none stops the reading. -/
inductive AnomalyKind
  /-- A closing brace without an open block. -/
  | unmatchedCloser
  /-- A return to a column at which no open block started. -/
  | inconsistentDedent
  /-- A comment or string still open at the end. -/
  | unterminatedComment
  deriving Repr, DecidableEq

def AnomalyKind.message : AnomalyKind → Chars
  | .unmatchedCloser => "unmatched closing delimiter".toList
  | .inconsistentDedent => "dedent does not match any outer level".toList
  | .unterminatedComment => "comment block never closed".toList

structure Anomaly where
  line : Nat
  kind : AnomalyKind
  deriving Repr, DecidableEq

/-- Nodes and anomalies, each in the order in which they were met. -/
structure Flow where
  nodes : List Node
  anomalies : List Anomaly
  deriving Repr, DecidableEq

namespace Flow

def empty : Flow := ⟨[], []⟩

def ofNode (n : Node) : Flow := ⟨[n], []⟩

def ofAnomaly (a : Anomaly) : Flow := ⟨[], [a]⟩

def append (f g : Flow) : Flow := ⟨f.nodes ++ g.nodes, f.anomalies ++ g.anomalies⟩

instance : Append Flow := ⟨append⟩

@[simp] theorem nodes_append (f g : Flow) : (f ++ g).nodes = f.nodes ++ g.nodes := rfl

@[simp] theorem anomalies_append (f g : Flow) :
    (f ++ g).anomalies = f.anomalies ++ g.anomalies := rfl

@[simp] theorem nodes_empty : empty.nodes = [] := rfl

@[simp] theorem anomalies_empty : empty.anomalies = [] := rfl

@[simp] theorem nodes_ofNode (n : Node) : (ofNode n).nodes = [n] := rfl

@[simp] theorem anomalies_ofNode (n : Node) : (ofNode n).anomalies = [] := rfl

@[simp] theorem nodes_ofAnomaly (a : Anomaly) : (ofAnomaly a).nodes = [] := rfl

@[simp] theorem anomalies_ofAnomaly (a : Anomaly) : (ofAnomaly a).anomalies = [a] := rfl

@[ext] theorem ext {f g : Flow} (hn : f.nodes = g.nodes) (ha : f.anomalies = g.anomalies) :
    f = g := by
  cases f; cases g; cases hn; cases ha; rfl

@[simp] theorem append_empty (f : Flow) : f ++ empty = f := by ext <;> simp

@[simp] theorem empty_append (f : Flow) : empty ++ f = f := by ext <;> simp

theorem append_assoc (f g h : Flow) : f ++ g ++ h = f ++ (g ++ h) := by ext <;> simp

end Flow
end NestChart

import NestChart.Brace.Parts
import NestChart.Builder
import NestChart.Nesting

/-!
# NestChart.Brace.Builder

The nesting of a brace language. Depth changes at braces and, without them, for the one statement
that a head is followed by. An `else` goes back to the nearest `if` whose body has just ended.
-/

namespace NestChart.Brace

open Text

/-- An open block. -/
structure Frame where
  /-- Depth to go back to when the block closes. -/
  restore : Nat
  /-- Depth of the labels, if the block is the body of a `switch`; their statements lie one
  deeper. -/
  labels? : Option Nat
  deriving Repr, DecidableEq

/-- A comment that later lines continue. -/
structure OpenComment where
  /-- Its lines, the latest first. -/
  lines : List Chars
  depth : Nat
  line : Nat
  span : Span
  deriving Repr, DecidableEq

namespace OpenComment

def extend (c : OpenComment) (text : Chars) (span : Span) : OpenComment :=
  { c with lines := text :: c.lines, span := c.span.cover span }

/-- The comment as one node. -/
def node (c : OpenComment) : Node :=
  ⟨joinLines c.lines.reverse, c.depth, .comment, c.line, c.span⟩

end OpenComment

/-- What the lines so far have left open. -/
structure State where
  frames : Nesting Frame
  /-- Depth apart from heads that wait for their one statement. -/
  depth : Nat
  /-- Heads that wait for their one statement. -/
  pending : Nat
  /-- For each `if` among them, how many heads wait before it; the latest first. -/
  pendingIfs : List Nat
  /-- The same for `if`s whose statement has just ended and that an `else` may answer. -/
  danglingIfs : List Nat
  /-- The next block is the body of a `switch`. -/
  opensSwitch : Bool
  comment? : Option OpenComment
  deriving Repr, DecidableEq

namespace State

def start : State := ⟨.empty, 0, 0, [], [], false, none⟩

/-- Depth at which the next code is shown. -/
def effectiveDepth (s : State) : Nat := s.depth + s.pending

/-- Forgets heads that wait or have just been served. -/
def settle (s : State) : State := { s with pending := 0, pendingIfs := [], danglingIfs := [] }

/-- A statement serves all waiting heads; an `else` may still answer their `if`s. -/
def completeChain (s : State) : State :=
  { s with pending := 0, pendingIfs := [], danglingIfs := s.pendingIfs }

/-- Levels that a block adds: one for each waiting head, and one for a block without a head. -/
def blockLevels (s : State) : Nat := max s.pending 1

def openBlock (s : State) : State :=
  let body := s.depth + s.blockLevels
  settle { s with
    frames := s.frames.push ⟨s.depth, if s.opensSwitch then some body else none⟩
    depth := body
    opensSwitch := false }

def openBlockIf (opens : Bool) (s : State) : State := if opens then s.openBlock else s

def closeBlock (line : Nat) (s : State) : Step State :=
  let closed := s.frames.close line
  ⟨settle { s with
      frames := closed.stack
      depth := match closed.frame? with
        | some frame => frame.restore
        | none => s.depth - 1
      opensSwitch := false },
    ⟨[], closed.anomalies⟩⟩

/-- The node of a piece at a depth. -/
def node (p : Piece) (depth : Nat) (category : Category) (line : Nat) : Node :=
  ⟨p.text, depth, category, line, p.span⟩

/-- Shows a comment, or keeps it open for the lines to come. -/
def placeComment (p : Piece) (depth line : Nat) (s : State) : Step State :=
  match Comment.start p.text with
  | .opens => .goto { s with comment? := some ⟨[p.text], depth, line, p.span⟩ }
  | _ => .emit s (node p depth .comment line)

/-- An `else` goes back to the latest `if` that it can answer; any other head ends their wait. -/
def answerIf (text : Chars) (s : State) : State :=
  if s.pending = 0 && Shape.isElse text then
    match s.danglingIfs with
    | waiting :: outer => { s with pending := waiting, pendingIfs := outer, danglingIfs := [] }
    | [] => s
  else { s with danglingIfs := [] }

/-- The head holds its own statement or block. -/
def isComplete (text : Chars) : Bool :=
  text.getLast? == some ';' || text.getLast? == some '}'

/-- The state behind a head without a block. -/
def awaitBody (text : Chars) (s : State) : State :=
  let s := if Shape.isIf text then { s with pendingIfs := s.pending :: s.pendingIfs } else s
  if isComplete text then s.completeChain
  else { s with opensSwitch := Shape.isSwitch text, pending := s.pending + 1 }

def placeHeader (p : Piece) (opens : Bool) (line : Nat) (s : State) : Step State :=
  let s := s.answerIf p.text
  let next :=
    if opens then
      openBlock { s with opensSwitch := Shape.isSwitch p.text, pending := s.pending + 1 }
    else s.awaitBody p.text
  .emit next (node p s.effectiveDepth .controlHeader line)

/-- Shows a label; in the body of a `switch` it sets the depth of what follows. -/
def placeLabel (p : Piece) (line : Nat) (s : State) : Step State :=
  match s.frames.top?.bind Frame.labels? with
  | some labels =>
    .emit { s with depth := labels + 1 }.settle (node p labels .controlHeader line)
  | none => .emit s (node p s.effectiveDepth .controlHeader line)

def placeDeclaration (category : Category) (p : Piece) (opens : Bool) (line : Nat) (s : State) :
    Step State :=
  .emit (openBlockIf opens s.settle) (node p s.effectiveDepth category line)

def placeStatements (ps : List Piece) (opens : Bool) (line : Nat) (s : State) : Step State :=
  let served := if ps.isEmpty then s else s.completeChain
  ⟨openBlockIf opens served, ⟨ps.map (node · s.effectiveDepth .statement line), []⟩⟩

/-- The parts of one line, from left to right. A comment behind code takes the depth of the first
node of that code. -/
def run (line : Nat) : Parts → State → Step State
  | .nothing, s => .goto s
  | .closer rest, s => (s.closeBlock line).andThen (run line rest)
  | .opener, s => .goto s.openBlock
  | .comment p, s => s.placeComment p s.effectiveDepth line
  | .directive p, s => .emit s (node p s.effectiveDepth .directive line)
  | .header p opens, s => s.placeHeader p opens line
  | .label p rest, s => (s.placeLabel p line).andThen (run line rest)
  | .declaration category p opens, s => s.placeDeclaration category p opens line
  | .statements ps opens, s => s.placeStatements ps opens line
  | .both left right, s => (run line left s).andThen (run line right)
  | .beside code comment, s =>
    let shown := run line code s
    let depth := match shown.flow.nodes.head? with
      | some first => first.depth
      | none => shown.state.effectiveDepth
    shown.andThen (placeComment comment depth line)

/-- One line inside an open comment. -/
def continueComment (c : OpenComment) (text : Chars) (span : Span) (s : State) : Step State :=
  let c := c.extend text span
  if Comment.closes text then .emit { s with comment? := none } c.node
  else .goto { s with comment? := some c }

def push (s : State) (l : Line) : Step State :=
  if l.trimmed.isEmpty then .goto s
  else
    match s.comment? with
    | some c => s.continueComment c l.trimmed l.trimmedSpan
    | none => run l.number (.ofText l.trimmed l.trimmedSpan.start) s

/-- A comment that is still open is shown and reported. -/
def finish (s : State) : Flow :=
  match s.comment? with
  | some c => ⟨[c.node], [⟨c.line, .unterminatedComment⟩]⟩
  | none => .empty

end State

/-- Builds the flow of a brace language. -/
def builder : Builder State where
  start := .start
  push := State.push
  finish := State.finish
  depth := State.depth

end NestChart.Brace

import NestChart.Builder
import NestChart.Indent.Classify
import NestChart.Indent.Continuation

/-!
# NestChart.Indent.Builder

The nesting of an indentation language. The open levels are the columns at which their blocks
began; a line goes back to its own column and may open a deeper level. Comments and the lines inside
strings and continued lines leave the levels alone.
-/

namespace NestChart.Indent

open Text

/-- Columns between tab stops. -/
def tabStop : Nat := 8

/-- The column reached from column `width` over the leading spaces and tabs. -/
def columnFrom (width : Nat) : Chars → Nat
  | [] => width
  | c :: cs =>
    if c = ' ' then columnFrom (width + 1) cs
    else if c = '\t' then columnFrom ((width / tabStop + 1) * tabStop) cs
    else width

/-- The column at which a line begins. -/
def column (content : Chars) : Nat := columnFrom 0 content

/-- What earlier lines have left open. -/
inductive Mode
  | code
  /-- A triple-quoted string: its style, its depth and the line it began on. -/
  | string (style : QuoteStyle) (depth line : Nat)
  /-- A logical line: its open brackets and its depth. -/
  | continued (brackets depth : Nat)
  deriving Repr, DecidableEq

structure State where
  /-- Columns of the open levels, the innermost first; column 0 lies below them all. -/
  levels : List Nat
  mode : Mode
  /-- The last line of code opened a block. -/
  afterOpener : Bool
  deriving Repr, DecidableEq

namespace State

def start : State := ⟨[], .code, false⟩

def depth (s : State) : Nat := s.levels.length

/-- The column of the innermost level. -/
def top (s : State) : Nat := s.levels.headD 0

/-- Closes the levels beyond a column and opens one there if none is left at it. A level that opens
where others have closed matches none of them. -/
def align (column line : Nat) (s : State) : State × List Anomaly :=
  let kept := s.levels.dropWhile (column < ·)
  if kept.headD 0 < column then
    ({ s with levels := column :: kept },
      if kept.length < s.levels.length then [⟨line, .inconsistentDedent⟩] else [])
  else ({ s with levels := kept }, [])

/-- Depth of a comment: the levels that begin at or before its column, and one more if it is
indented into a block that has just been opened. -/
def commentDepth (column : Nat) (s : State) : Nat :=
  let depth := (s.levels.reverse.takeWhile (· ≤ column)).length
  if s.afterOpener && s.top < column then depth + 1 else depth

/-- The node of a whole line. -/
def node (l : Line) (depth : Nat) (category : Category) : Node :=
  ⟨l.trimmed, depth, category, l.number, l.trimmedSpan⟩

/-- What follows a line of code at a depth, given the balance of its brackets. -/
def endLine (text : Chars) (balance : Int) (depth : Nat) (s : State) : State :=
  if 0 < balance || Continuation.isExplicit text then
    { s with mode := .continued balance.toNat depth }
  else { s with mode := .code, afterOpener := opensBlock text }

/-- A line of code that begins a logical line. -/
def pushCode (s : State) (l : Line) : Step State :=
  let text := l.trimmed
  let (s, anomalies) := s.align (column l.content) l.number
  let next :=
    match QuoteStyle.leftOpen? text with
    | some style => { s with mode := .string style s.depth l.number, afterOpener := false }
    | none => s.endLine text (Continuation.balance text) s.depth
  ⟨next, ⟨[node l s.depth (classify text)], anomalies⟩⟩

/-- The first line names an interpreter. -/
def isInterpreterLine (l : Line) : Bool :=
  l.number == 1 && ['#', '!'].isPrefixOf l.trimmed

def push (s : State) (l : Line) : Step State :=
  let text := l.trimmed
  if text.isEmpty then .goto s
  else
    match s.mode with
    | .string style depth _ =>
      .emit (if style.closes text then { s with mode := .code } else s) (node l depth .comment)
    | .continued brackets depth =>
      .emit (s.endLine text (brackets + Continuation.balance text) depth)
        (node l depth (classify text))
    | .code =>
      if isInterpreterLine l then .goto s
      else if isComment text then
        .emit s (node l (s.commentDepth (column l.content)) .comment)
      else s.pushCode l

/-- A string that is still open is reported. -/
def finish (s : State) : Flow :=
  match s.mode with
  | .string _ _ line => .ofAnomaly ⟨line, .unterminatedComment⟩
  | _ => .empty

end State

/-- Builds the flow of an indentation language. -/
def builder : Builder State where
  start := .start
  push := State.push
  finish := State.finish
  depth := State.depth

end NestChart.Indent

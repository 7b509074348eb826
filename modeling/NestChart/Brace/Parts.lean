import NestChart.Brace.Classify
import NestChart.Brace.Statement

/-!
# NestChart.Brace.Parts

The parts that a line of a brace language falls into: closing and opening braces, comments, heads,
labels and statements. `Parts.ofText` finds them from the text alone; what they mean for the
nesting is left to the builder.
-/

namespace NestChart.Brace

open Text

/-- A part of the source and the byte at which it begins. -/
structure Piece where
  text : Chars
  start : Nat
  deriving Repr, DecidableEq

def Piece.span (p : Piece) : Span := ⟨p.start, p.start + byteLength p.text⟩

/-- What a line is made of, from left to right. -/
inductive Parts
  | nothing
  /-- A closing brace and what follows it. -/
  | closer (rest : Parts)
  /-- An opening brace alone. -/
  | opener
  /-- A comment that takes the whole line. -/
  | comment (p : Piece)
  | directive (p : Piece)
  /-- The head of a branch or loop, and whether a brace opens its body. -/
  | header (p : Piece) (opens : Bool)
  /-- A label of a choice and what follows it. -/
  | label (p : Piece) (rest : Parts)
  /-- A prototype or declaration, and whether a brace opens its body. -/
  | declaration (category : Category) (p : Piece) (opens : Bool)
  /-- Statements, and whether a brace opens a block behind them. -/
  | statements (ps : List Piece) (opens : Bool)
  /-- A line with a brace inside it, in two. -/
  | both (left right : Parts)
  /-- Code and the comment behind it. -/
  | beside (code : Parts) (comment : Piece)
  deriving Repr, DecidableEq

/-- Takes an opening brace off the end. -/
def splitOpener (text : Chars) : Chars × Bool :=
  match Block.beforeOpen? text with
  | some body => (body, true)
  | none => (text, false)

/-- The line belongs to the preprocessor, whatever it holds. -/
def isDirective (text : Chars) : Bool := text.head? == some '#'

namespace Parts

/-- The parts of a trimmed text that begins at byte `start` of the source. -/
def ofText (text : Chars) (start : Nat) : Parts :=
  match _hc : Block.afterClose? text with
  | some rest => .closer (ofText rest (start + (byteLength text - byteLength rest)))
  | none =>
  if text.isEmpty then .nothing
  else if Block.isLoneOpen text then .opener
  else if isDirective text then .directive ⟨text, start⟩
  else
  match _hm : Comment.cut? text with
  | some (code, behind) =>
    .beside (ofText (trimEnd code) start) ⟨behind, start + byteLength code⟩
  | none =>
  match _hb : Block.cut? text with
  | some (left, right) =>
    let rest := trimStart right
    .both (ofText (trimEnd left) start)
      (ofText rest (start + (byteLength text - byteLength rest)))
  | none =>
  let (body, opens) := splitOpener text
  match classify text with
  | .comment => .comment ⟨text, start⟩
  | .directive => .directive ⟨text, start⟩
  | .controlHeader =>
    match _hl : Shape.label? text with
    | some (head, rest) =>
      .label ⟨head, start⟩ (ofText rest (start + (byteLength text - byteLength rest)))
    | none => .header ⟨body, start⟩ opens
  | .prototype => .declaration .prototype ⟨body, start⟩ opens
  | .declaration => .declaration .declaration ⟨body, start⟩ opens
  | .statement =>
    .statements ((Statement.segments body).map fun s => ⟨s.text, start + s.start⟩) opens
termination_by text.length
decreasing_by
  · exact Block.length_afterClose?_lt _hc
  · have h := Comment.cut?_append _hm
    have h1 := congrArg List.length h.1
    have h2 := List.length_pos_iff.2 h.2.2
    have h3 := length_trimEnd_le code
    simp only [List.length_append] at h1
    omega
  · have h := Block.cut?_append _hb
    have h1 := congrArg List.length h.1
    have h2 := List.length_pos_iff.2 h.2.2
    have h3 := length_trimEnd_le left
    simp only [List.length_append] at h1
    omega
  · have h := Block.cut?_append _hb
    have h1 := congrArg List.length h.1
    have h2 := List.length_pos_iff.2 h.2.1
    have h3 := length_trimStart_le right
    simp only [List.length_append] at h1
    omega
  · exact Shape.length_label?_lt _hl

end Parts
end NestChart.Brace

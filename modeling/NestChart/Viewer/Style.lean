import NestChart.Drawing

/-!
# NestChart.Viewer.Style

Drawn lines for a terminal: spans of text with a style. The texts of a line's spans, one after
another, are the line.
-/

namespace NestChart.Viewer

/-- The colors of a terminal. -/
inductive TerminalColor
  | black
  | red
  | green
  | yellow
  | blue
  | cyan
  | gray
  | darkGray
  | lightRed
  | lightGreen
  | lightYellow
  | lightBlue
  | lightMagenta
  | lightCyan
  | white
  deriving Repr, DecidableEq

structure Style where
  foreground? : Option TerminalColor
  background? : Option TerminalColor
  bold : Bool
  deriving Repr, DecidableEq

namespace Style

def plain : Style := ⟨none, none, false⟩

def heading : Style := ⟨none, none, true⟩

def ink (c : TerminalColor) : Style := ⟨some c, none, false⟩

def fill (ground ink : TerminalColor) : Style := ⟨some ink, some ground, false⟩

/-- The style of notes behind a box. -/
def note : Style := ink .darkGray

/-- The style of a color: its ink, or a filled ground with a readable ink. -/
def ofColor : Color → Style
  | .brightBlue => ink .lightBlue
  | .brightGreen => ink .lightGreen
  | .brightYellow => ink .lightYellow
  | .brightRed => ink .lightRed
  | .brightMagenta => ink .lightMagenta
  | .brightCyan => ink .lightCyan
  | .yellow => ink .yellow
  | .cyan => ink .cyan
  | .lightGray => ink .gray
  | .darkGray => ink .darkGray
  | .redBackground => fill .red .white
  | .greenBackground => fill .green .white
  | .yellowBackground => fill .yellow .black
  | .blueBackground => fill .blue .white

end Style

/-- A text in one style. -/
structure StyledSpan where
  text : Chars
  style : Style
  deriving Repr, DecidableEq

/-- The spans of a drawn line; a gap has none. -/
def styled : DrawnLine → List StyledSpan
  | .title text => [⟨text ++ [':'], .heading⟩]
  | .blank => []
  | .boxed offset color text suffix? =>
    [⟨List.replicate offset ' ', .plain⟩, ⟨text, .ofColor color⟩] ++
      (suffix?.map fun s => ⟨s, .note⟩).toList

end NestChart.Viewer

import NestChart.Drawing
import NestChart.Text.Markup

/-!
# NestChart.Format

Drawn lines as output: plain text, text colored for a terminal, and markup for a page. The three
show the same characters.
-/

namespace NestChart.Format

open Text

/-- Ends each line. -/
def endLines (ls : List Chars) : Chars := ls.flatMap (· ++ ['\n'])

def spaces (n : Nat) : Chars := List.replicate n ' '

/-! ## Plain text -/

def plainLine : DrawnLine → Chars
  | .title text => text ++ [':']
  | .blank => []
  | .boxed offset _ text suffix? => spaces offset ++ text ++ suffix?.getD []

def plain (lines : List DrawnLine) : Chars := endLines (lines.map plainLine)

/-! ## Terminal text -/

/-- The escape sequence that sets a graphic mode. -/
def mode (parameter : Nat) : Chars := ['\x1b', '['] ++ Nat.toDigits 10 parameter ++ ['m']

def ansiLine : DrawnLine → Chars
  | .title text => text ++ [':']
  | .blank => []
  | .boxed offset color text suffix? =>
    spaces offset ++ mode color.ansiCode ++ text ++ mode 0 ++ suffix?.getD []

def ansi (lines : List DrawnLine) : Chars := endLines (lines.map ansiLine)

/-! ## Markup -/

/-- The style of a box line: a color on dark ground, or white on a filled ground. -/
def boxStyle (color : Color) : Chars :=
  let (ground, ink) :=
    if color.isBackground then (color.hex, "#FFFFFF".toList)
    else ("#1e1e1e".toList, color.hex)
  "background-color:".toList ++ ground ++ "; color:".toList ++ ink ++ [';']

def htmlLine : DrawnLine → Chars
  | .title text => "<b>".toList ++ Markup.escape text ++ ":</b><br>".toList
  | .blank => "<br>".toList
  | .boxed offset color text suffix? =>
    (List.replicate offset "&nbsp;".toList).flatten ++ "<span style='".toList ++ boxStyle color ++
      "'>".toList ++ Markup.escape text ++ "</span>".toList ++ Markup.escape (suffix?.getD []) ++
      "<br>".toList

/-- A preformatted block; no lines give no block. -/
def html (lines : List DrawnLine) : Chars :=
  if lines.isEmpty then []
  else "<pre style='font-family: monospace'>".toList ++ lines.flatMap htmlLine ++ "</pre>".toList

/-- Writes lines in an output format. -/
def write : OutputFormat → List DrawnLine → Chars
  | .plain => plain
  | .ansi => ansi
  | .html => html

end NestChart.Format

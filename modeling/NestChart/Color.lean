import NestChart.Text.Basic

/-!
# NestChart.Color

The colors a box can be drawn in. Each has a name for settings, a code for terminals and a value
for pages, so that every output agrees on a depth's color.
-/

namespace NestChart

inductive Color
  | brightBlue
  | brightGreen
  | brightYellow
  | brightRed
  | brightMagenta
  | brightCyan
  | yellow
  | cyan
  | lightGray
  | darkGray
  | redBackground
  | greenBackground
  | yellowBackground
  | blueBackground
  deriving Repr, DecidableEq

namespace Color

def all : List Color :=
  [brightBlue, brightGreen, brightYellow, brightRed, brightMagenta, brightCyan, yellow, cyan,
    lightGray, darkGray, redBackground, greenBackground, yellowBackground, blueBackground]

/-- The name in settings. -/
def name : Color → String
  | brightBlue => "bright_blue"
  | brightGreen => "bright_green"
  | brightYellow => "bright_yellow"
  | brightRed => "bright_red"
  | brightMagenta => "bright_magenta"
  | brightCyan => "bright_cyan"
  | yellow => "yellow"
  | cyan => "cyan"
  | lightGray => "light_gray"
  | darkGray => "dark_gray"
  | redBackground => "red_background"
  | greenBackground => "green_background"
  | yellowBackground => "yellow_background"
  | blueBackground => "blue_background"

def ofName? (name : String) : Option Color := all.find? (·.name == name)

/-- The parameter of the terminal's escape sequence. -/
def ansiCode : Color → Nat
  | brightBlue => 94
  | brightGreen => 92
  | brightYellow => 93
  | brightRed => 91
  | brightMagenta => 95
  | brightCyan => 96
  | yellow => 33
  | cyan => 36
  | lightGray => 37
  | darkGray => 90
  | redBackground => 41
  | greenBackground => 42
  | yellowBackground => 43
  | blueBackground => 44

/-- The value on a page. -/
def hex : Color → Chars
  | brightBlue => "#1E90FF".toList
  | brightGreen => "#32CD32".toList
  | brightYellow => "#FFD700".toList
  | brightRed => "#FF4500".toList
  | brightMagenta => "#8A2BE2".toList
  | brightCyan => "#00CED1".toList
  | yellow => "#FFA500".toList
  | cyan => "#20B2AA".toList
  | lightGray => "#D3D3D3".toList
  | darkGray => "#A9A9A9".toList
  | redBackground => "#B22222".toList
  | greenBackground => "#228B22".toList
  | yellowBackground => "#B8860B".toList
  | blueBackground => "#4169E1".toList

/-- The color fills the box instead of coloring its text. -/
def isBackground : Color → Bool
  | redBackground | greenBackground | yellowBackground | blueBackground => true
  | _ => false

end Color

/-! ## Palettes -/

/-- Colors for depths; there is at least one. -/
structure Palette where
  colors : List Color
  nonempty : colors ≠ []
  deriving Repr, DecidableEq

/-- Why a list of colors is no palette. -/
inductive PaletteError
  | empty
  deriving Repr, DecidableEq

def PaletteError.message : PaletteError → Chars
  | .empty => "palette must contain at least one color".toList

namespace Palette

def ofList (colors : List Color) : Except PaletteError Palette :=
  if h : colors = [] then .error .empty else .ok ⟨colors, h⟩

def size (p : Palette) : Nat := p.colors.length

theorem size_pos (p : Palette) : 0 < p.size := List.length_pos_iff.2 p.nonempty

/-- The color of a depth; after the last color the first one follows. -/
def colorAt (p : Palette) (depth : Nat) : Color :=
  p.colors.get ⟨depth % p.size, Nat.mod_lt _ p.size_pos⟩

/-- Texts in nine bright and plain colors, then four filled backgrounds. -/
def standard : Palette where
  colors := [.brightBlue, .brightGreen, .brightYellow, .brightRed, .brightMagenta, .brightCyan,
    .yellow, .cyan, .lightGray, .redBackground, .greenBackground, .yellowBackground,
    .blueBackground]
  nonempty := by simp

end Palette
end NestChart

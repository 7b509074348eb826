import NestChart.Chart

/-!
# NestChart.Viewer.State

A chart under a window. Zooming changes the indentation and draws the chart again, which no zoom can
stop, since the widths stay; scrolling moves the window and stops at the ends. The lines are always
those of the current settings.
-/

namespace NestChart

structure Viewer where
  title : Chars
  source : Chars
  language : Language
  settings : Settings
  lines : List DrawnLine
  /-- The first line that is shown. -/
  scroll : Nat
  deriving Repr, DecidableEq

namespace Viewer

def minIndent : Nat := 1

def maxIndent : Nat := 16

/-- Positions in a chart have 16 bits. -/
def scrollBound : Nat := 65535

/-- The last position that shows a line. -/
def maxScroll (v : Viewer) : Nat := min (v.lines.length - 1) scrollBound

/-- Draws the chart for new settings; the window stays as far down as there are lines. -/
def redraw (v : Viewer) (settings : Settings) : Viewer :=
  let next := { v with
    settings := settings
    lines := Chart.lines v.language settings v.source }
  { next with scroll := min v.scroll next.maxScroll }

/-- Opens the chart of a source at its top. -/
def ofSource (title source : Chars) (language : Language) (settings : Settings) : Viewer :=
  redraw ⟨title, source, language, settings, [], 0⟩ settings

/-- Opens the chart of a source that can be drawn. -/
def open? (title source : Chars) (language : Language) (settings : Settings) : Option Viewer :=
  (Chart.lines? language settings source).map fun _ => ofSource title source language settings

def withIndent (v : Viewer) (unit : Nat) : Viewer :=
  v.redraw { v.settings with indentUnit := unit }

def zoomIn (v : Viewer) : Viewer := v.withIndent (min (v.settings.indentUnit + 1) maxIndent)

def zoomOut (v : Viewer) : Viewer := v.withIndent (max (v.settings.indentUnit - 1) minIndent)

def scrollDown (v : Viewer) (n : Nat) : Viewer :=
  { v with scroll := min (v.scroll + n) v.maxScroll }

def scrollUp (v : Viewer) (n : Nat) : Viewer := { v with scroll := v.scroll - n }

end Viewer
end NestChart

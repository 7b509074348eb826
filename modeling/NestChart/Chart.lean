import NestChart.Format
import NestChart.Reading

/-!
# NestChart.Chart

From a source to its chart: the canvas, the lines and the output. Whatever the source is, each node
of its flow gets its box; only a box that stops the drawing leaves it without a chart.
-/

namespace NestChart.Chart

/-- The canvas of a source. -/
def canvas (l : Language) (settings : Settings) (source : Chars) : Canvas :=
  .ofNodes l settings (l.flow source).nodes

/-- The drawn lines of a source, of any widths. -/
def lines (l : Language) (settings : Settings) (source : Chars) : List DrawnLine :=
  Drawing.ofCanvas settings (canvas l settings source)

/-- The drawn lines of a source, if it can be drawn. -/
def lines? (l : Language) (settings : Settings) (source : Chars) : Option (List DrawnLine) :=
  Drawing.ofCanvas? settings (canvas l settings source)

/-- The chart of a source in the output format of the settings. -/
def render (l : Language) (settings : Settings) (source : Chars) : Chars :=
  Format.write settings.output (lines l settings source)

/-- The chart of a source, if it can be drawn. -/
def render? (l : Language) (settings : Settings) (source : Chars) : Option Chars :=
  (lines? l settings source).map (Format.write settings.output)

end NestChart.Chart

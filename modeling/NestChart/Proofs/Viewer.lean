import NestChart.Proofs.Drawing
import NestChart.Viewer.State

/-!
# NestChart.Proofs.Viewer

Runs of a viewer. Zooming draws the chart again with another indentation. That moves boxes and
changes no width, so rows are cut where they were and the drawing keeps its number of lines
(`Chart.length_lines_indented`). Hence the window stays where it is, and a run scrolls as if there
were no zooms in it (`Viewer.run_scrolls`).
-/

namespace NestChart

/-! ## Another indentation -/

namespace Settings

def indented (s : Settings) (unit : Nat) : Settings := { s with indentUnit := unit }

end Settings

namespace PlacedBox

/-- The box at the offset that another indentation gives it. -/
def indented (unit : Nat) (b : PlacedBox) : PlacedBox := { b with offset := b.depth * unit }

end PlacedBox

namespace Row

theorem width_map_indented (unit : Nat) (bs : List PlacedBox) :
    width ⟨bs.map (PlacedBox.indented unit)⟩ = width ⟨bs⟩ := by
  rw [width, width, List.map_map]
  rfl

/-- Rows are cut by the widths of boxes, whatever their offsets are. -/
theorem packFrom_indented (limit unit : Nat) (filled bs : List PlacedBox) :
    packFrom limit (filled.map (PlacedBox.indented unit)) (bs.map (PlacedBox.indented unit)) =
      (packFrom limit filled bs).map fun r => ⟨r.boxes.map (PlacedBox.indented unit)⟩ := by
  induction bs generalizing filled with
  | nil =>
    simp only [List.map_nil, packFrom, List.isEmpty_map]
    split <;> simp
  | cons b bs ih =>
    have hwidth : (b.indented unit).width = b.width := rfl
    simp only [List.map_cons, packFrom, List.isEmpty_map, width_map_indented, hwidth]
    split
    · rw [List.map_cons, ← ih [b], List.map_reverse]
      rfl
    · exact ih (b :: filled)

end Row

namespace Canvas

def indented (unit : Nat) (c : Canvas) : Canvas where
  sections := c.sections.map fun s =>
    ⟨s.title?, s.rows.map fun r => ⟨r.boxes.map (PlacedBox.indented unit)⟩⟩

theorem ofNodes_indented (l : Language) (s : Settings) (unit : Nat) (nodes : List Node) :
    ofNodes l (s.indented unit) nodes = (ofNodes l s nodes).indented unit := by
  simp only [ofNodes, ofSections, indented, List.map_map, Canvas.mk.injEq]
  refine List.map_congr_left fun part _ => ?_
  have hrows := Row.packFrom_indented s.lineWidth unit [] (part.nodes.map (PlacedBox.ofNode s))
  rw [List.map_map] at hrows
  exact congrArg (CanvasSection.mk part.title?) hrows

theorem boxes_indented (unit : Nat) (c : Canvas) :
    (c.indented unit).boxes = c.boxes.map (PlacedBox.indented unit) := by
  simp only [boxes, indented, List.flatMap_map, List.map_flatMap]

end Canvas

theorem Drawing.length_ofCanvas_indented (s other : Settings) (unit : Nat) (c : Canvas) :
    (ofCanvas other (c.indented unit)).length = (ofCanvas s c).length := by
  rw [length_ofCanvas, length_ofCanvas, Canvas.boxes_indented, total_map]
  simp only [Canvas.indented, total_map, List.countP_map, List.length_map]
  rfl

/-- A chart has as many lines with any indentation. -/
theorem Chart.length_lines_indented (l : Language) (s : Settings) (unit : Nat) (source : Chars) :
    (lines l (s.indented unit) source).length = (lines l s source).length := by
  rw [lines, lines, canvas, canvas, Canvas.ofNodes_indented]
  exact Drawing.length_ofCanvas_indented s _ unit _

/-! ## Runs -/

namespace Viewer

/-- What can be done to a viewer. -/
inductive Action
  | zoomIn
  | zoomOut
  | scrollDown (n : Nat)
  | scrollUp (n : Nat)
  deriving Repr, DecidableEq

def Action.isZoom : Action → Bool
  | zoomIn | zoomOut => true
  | scrollDown _ | scrollUp _ => false

def perform (v : Viewer) : Action → Viewer
  | .zoomIn => v.zoomIn
  | .zoomOut => v.zoomOut
  | .scrollDown n => v.scrollDown n
  | .scrollUp n => v.scrollUp n

def run (v : Viewer) (actions : List Action) : Viewer := actions.foldl perform v

/-- The viewer shows the chart of a source with settings that may have another indentation, and its
window begins at a line. -/
structure Shows (source : Chars) (l : Language) (settings : Settings) (v : Viewer) : Prop where
  source_eq : v.source = source
  language_eq : v.language = l
  settings_eq : ∃ unit, v.settings = settings.indented unit
  lines_eq : v.lines = Chart.lines l v.settings source
  scroll_le : v.scroll ≤ v.maxScroll

section Run

variable {source : Chars} {l : Language} {settings : Settings} {v w : Viewer}

theorem Shows.length_lines (h : Shows source l settings v) :
    v.lines.length = (Chart.lines l settings source).length := by
  obtain ⟨unit, hsettings⟩ := h.settings_eq
  rw [h.lines_eq, hsettings, Chart.length_lines_indented]

theorem Shows.maxScroll_eq (h : Shows source l settings v) :
    v.maxScroll = min ((Chart.lines l settings source).length - 1) scrollBound := by
  rw [maxScroll, h.length_lines]

theorem ofSource_shows (title source : Chars) (l : Language) (settings : Settings) :
    Shows source l settings (ofSource title source l settings) where
  source_eq := rfl
  language_eq := rfl
  settings_eq := ⟨settings.indentUnit, rfl⟩
  lines_eq := rfl
  scroll_le := Nat.min_le_right ..

theorem Shows.withIndent (h : Shows source l settings v) (unit : Nat) :
    Shows source l settings (v.withIndent unit) where
  source_eq := h.source_eq
  language_eq := h.language_eq
  settings_eq := by
    obtain ⟨before, hsettings⟩ := h.settings_eq
    refine ⟨unit, ?_⟩
    show { v.settings with indentUnit := unit } = _
    rw [hsettings]
    rfl
  lines_eq := by
    show Chart.lines v.language _ v.source = _
    rw [h.source_eq, h.language_eq]
    rfl
  scroll_le := Nat.min_le_right ..

theorem Shows.perform (h : Shows source l settings v) (a : Action) :
    Shows source l settings (v.perform a) := by
  cases a with
  | zoomIn => exact h.withIndent _
  | zoomOut => exact h.withIndent _
  | scrollDown n =>
    exact ⟨h.source_eq, h.language_eq, h.settings_eq, h.lines_eq, Nat.min_le_right ..⟩
  | scrollUp n =>
    have hle : v.scroll - n ≤ v.maxScroll := Nat.le_trans (Nat.sub_le ..) h.scroll_le
    exact ⟨h.source_eq, h.language_eq, h.settings_eq, h.lines_eq, hle⟩

theorem Shows.run (h : Shows source l settings v) (actions : List Action) :
    Shows source l settings (v.run actions) := by
  induction actions generalizing v with
  | nil => exact h
  | cons a actions ih => exact ih (h.perform a)

theorem Shows.scroll_withIndent (h : Shows source l settings v) (unit : Nat) :
    (v.withIndent unit).scroll = v.scroll := by
  have hmax : (v.withIndent unit).maxScroll = v.maxScroll :=
    (h.withIndent unit).maxScroll_eq.trans h.maxScroll_eq.symm
  show min v.scroll (v.withIndent unit).maxScroll = v.scroll
  rw [hmax]
  exact Nat.min_eq_left h.scroll_le

/-- Zooming leaves the window where it is. -/
theorem Shows.scroll_zoom (h : Shows source l settings v) {a : Action} (ha : a.isZoom = true) :
    (v.perform a).scroll = v.scroll := by
  cases a with
  | zoomIn => exact h.scroll_withIndent _
  | zoomOut => exact h.scroll_withIndent _
  | scrollDown n => cases ha
  | scrollUp n => cases ha

/-- Scrolling depends on the number of lines alone. -/
theorem Shows.scroll_perform (hv : Shows source l settings v) (hw : Shows source l settings w)
    (he : v.scroll = w.scroll) {a : Action} (ha : a.isZoom = false) :
    (v.perform a).scroll = (w.perform a).scroll := by
  have hmax : v.maxScroll = w.maxScroll := hv.maxScroll_eq.trans hw.maxScroll_eq.symm
  cases a with
  | zoomIn => cases ha
  | zoomOut => cases ha
  | scrollDown n =>
    show min (v.scroll + n) v.maxScroll = min (w.scroll + n) w.maxScroll
    rw [he, hmax]
  | scrollUp n =>
    show v.scroll - n = w.scroll - n
    rw [he]

/-- Two viewers of one source that begin at one line come to one line, if the second leaves the
zooms out. -/
theorem Shows.scroll_run (hv : Shows source l settings v) (hw : Shows source l settings w)
    (he : v.scroll = w.scroll) (actions : List Action) :
    (v.run actions).scroll = (w.run (actions.filter (!·.isZoom))).scroll := by
  induction actions generalizing v w with
  | nil => exact he
  | cons a actions ih =>
    cases ha : a.isZoom with
    | true =>
      rw [List.filter_cons_of_neg (by simp [ha])]
      exact ih (hv.perform a) hw ((hv.scroll_zoom ha).trans he)
    | false =>
      rw [List.filter_cons_of_pos (by simp [ha])]
      exact ih (hv.perform a) (hw.perform a) (hv.scroll_perform hw he ha)

/-! ## Back and forth -/

theorem title_run (v : Viewer) (actions : List Action) : (v.run actions).title = v.title := by
  induction actions generalizing v with
  | nil => rfl
  | cons a actions ih =>
    have hstep : (v.perform a).title = v.title := by cases a <;> rfl
    exact (ih (v.perform a)).trans hstep

/-- Of viewers of one source the indentation and the first line shown tell all that can change. -/
theorem Shows.eq_of_indentUnit_eq (hv : Shows source l settings v) (hw : Shows source l settings w)
    (htitle : v.title = w.title) (hunit : v.settings.indentUnit = w.settings.indentUnit)
    (hscroll : v.scroll = w.scroll) : v = w := by
  obtain ⟨unit, hvs⟩ := hv.settings_eq
  obtain ⟨other, hws⟩ := hw.settings_eq
  have hsettings : v.settings = w.settings := by
    rw [hvs, hws] at hunit ⊢
    exact congrArg settings.indented hunit
  have hlines : v.lines = w.lines := by rw [hv.lines_eq, hw.lines_eq, hsettings]
  have hsource : v.source = w.source := hv.source_eq.trans hw.source_eq.symm
  have hlanguage : v.language = w.language := hv.language_eq.trans hw.language_eq.symm
  cases v
  cases w
  simp_all

theorem indentUnit_run_zoomIn (v : Viewer) {k : Nat}
    (h : v.settings.indentUnit + k ≤ maxIndent) :
    (v.run (List.replicate k .zoomIn)).settings.indentUnit = v.settings.indentUnit + k := by
  induction k generalizing v with
  | zero => rfl
  | succ k ih =>
    have hstep : v.zoomIn.settings.indentUnit = v.settings.indentUnit + 1 :=
      Nat.min_eq_left (by omega)
    have hrest := ih v.zoomIn (by omega)
    rw [List.replicate_succ]
    show (v.zoomIn.run (List.replicate k .zoomIn)).settings.indentUnit = _
    omega

theorem indentUnit_run_zoomOut (v : Viewer) {k : Nat}
    (h : minIndent + k ≤ v.settings.indentUnit) :
    (v.run (List.replicate k .zoomOut)).settings.indentUnit = v.settings.indentUnit - k := by
  induction k generalizing v with
  | zero => rfl
  | succ k ih =>
    have hstep : v.zoomOut.settings.indentUnit = v.settings.indentUnit - 1 :=
      Nat.max_eq_left (by omega)
    have hrest := ih v.zoomOut (by omega)
    rw [List.replicate_succ]
    show (v.zoomOut.run (List.replicate k .zoomOut)).settings.indentUnit = _
    omega

theorem run_append (v : Viewer) (first rest : List Action) :
    v.run (first ++ rest) = (v.run first).run rest := List.foldl_append

/-- So many zooms out take as many zooms in back, if all of these went further in. -/
theorem Shows.run_zoomIn_zoomOut (h : Shows source l settings v) {k : Nat}
    (hmin : minIndent ≤ v.settings.indentUnit) (hmax : v.settings.indentUnit + k ≤ maxIndent) :
    v.run (List.replicate k .zoomIn ++ List.replicate k .zoomOut) = v := by
  have hin := v.indentUnit_run_zoomIn hmax
  have hout := (v.run (List.replicate k .zoomIn)).indentUnit_run_zoomOut (k := k) (by omega)
  refine (h.run _).eq_of_indentUnit_eq h (v.title_run _) ?_ ?_
  · rw [run_append]
    omega
  · have hnone : (List.replicate k Action.zoomIn ++ List.replicate k Action.zoomOut).filter
        (!·.isZoom) = [] := by
      simp [Action.isZoom]
    rw [h.scroll_run h rfl, hnone]
    rfl

/-- Scrolling up takes scrolling down back, if this stopped before the end. -/
theorem scrollUp_scrollDown (v : Viewer) {n : Nat} (h : v.scroll + n ≤ v.maxScroll) :
    (v.scrollDown n).scrollUp n = v := by
  have hdown : min (v.scroll + n) v.maxScroll - n = v.scroll := by omega
  rw [scrollUp, scrollDown, hdown]

end Run

/-- After any actions a viewer shows the chart of its source for its current settings, which differ
from those that it was opened with in the indentation only. Its window begins at a line, its chart
has as many lines as at first, and it has scrolled as if it had never zoomed. -/
theorem run_scrolls (title source : Chars) (l : Language) (settings : Settings)
    (actions : List Action) :
    let opened := ofSource title source l settings
    let v := opened.run actions
    Shows source l settings v ∧ v.lines.length = opened.lines.length ∧
      v.scroll = (opened.run (actions.filter (!·.isZoom))).scroll := by
  intro opened v
  have hopened : Shows source l settings opened := ofSource_shows title source l settings
  have hv : Shows source l settings v := hopened.run actions
  have hcount : v.lines.length = opened.lines.length :=
    hv.length_lines.trans hopened.length_lines.symm
  exact ⟨hv, hcount, hopened.scroll_run hopened rfl actions⟩

/-- The window stops at the last of six lines, and the indentation goes up by one. -/
example :
    let v := (ofSource [] "if a:\n  b\n".toList .indentation .default).run
      [.scrollDown 2, .zoomIn, .scrollDown 9, .scrollUp 1, .zoomIn, .zoomOut]
    v.scroll = 4 ∧ v.lines.length = 6 ∧
      v.settings.indentUnit = Settings.default.indentUnit + 1 := by
  decide +kernel

/-- A chart that could be opened is never stopped by what is done to it. -/
theorem lines?_run {title source : Chars} {l : Language} {settings : Settings} {v : Viewer}
    (h : open? title source l settings = some v) (actions : List Action) :
    Chart.lines? l (v.run actions).settings source = some (v.run actions).lines := by
  obtain ⟨lines, hlines, rfl⟩ := Option.map_eq_some_iff.1 h
  have hdrawable : Chart.IsDrawable l source := Chart.isDrawable_of_lines? hlines
  have hv := (ofSource_shows title source l settings).run actions
  rw [hv.lines_eq, Chart.lines?_of_isDrawable hdrawable]

end Viewer
end NestChart

import NestChart.Drawing
import NestChart.Proofs.Chart
import NestChart.Proofs.Text.Lines

/-!
# NestChart.Proofs.Drawing

The geometry of a drawing. A box becomes a frame: two rules around one line for each line of its
text, all of one length (`Frames`). Frames stand in the order of the boxes, and what is drawn beside
them is counted by `Drawing.length_ofCanvas`: titles, and gaps between sections and between rows.
There is a drawing just when no line of a text is too long for a box (`Canvas.isDrawable_ofNodes`).
-/

namespace NestChart

/-! ## Frames -/

/-- The line belongs to a box. -/
def DrawnLine.isBoxed : DrawnLine → Bool
  | .boxed .. => true
  | _ => false

/-- The lines are a frame around the text of the box. -/
structure Frames (g : Glyphs) (numbered : Bool) (b : PlacedBox) (drawn : List DrawnLine) :
    Prop where
  length : drawn.length = b.lines.length + 2
  /-- All lines are drawn at the offset and in the color of the box and have one length. -/
  width : ∀ d ∈ drawn, ∃ text suffix?,
    d = .boxed b.offset b.color text suffix? ∧ text.length = b.width + 2
  top : drawn[0]? = some (.boxed b.offset b.color
    (g.topLeft :: List.replicate b.width g.horizontal ++ [g.topRight]) none)
  bottom : drawn[b.lines.length + 1]? = some (.boxed b.offset b.color
    (g.bottomLeft :: List.replicate b.width g.horizontal ++ [g.bottomRight]) none)
  /-- Each line of the text is filled up with blanks behind it; a note stands at the first only. -/
  content : ∀ i text, b.lines[i]? = some text → ∃ fill,
    drawn[i + 1]? = some (.boxed b.offset b.color
      ([g.vertical, ' ', ' '] ++ text ++ List.replicate fill ' ' ++ [' ', ' ', g.vertical])
      (if numbered && i == 0 then some (Drawing.lineNote b.line) else none))

namespace Glyphs

theorem length_rule (g : Glyphs) (left right : Char) (width : Nat) :
    (g.rule left right width).length = width + 2 := by
  simp [rule]

theorem length_content (g : Glyphs) {width : Nat} {text : Chars} (h : text.length ≤ width) :
    (g.content width text).length = width + 6 := by
  simp only [content, List.length_append, List.length_cons, List.length_nil,
    List.length_replicate]
  omega

end Glyphs

namespace Drawing

theorem length_ofBox (g : Glyphs) (numbered : Bool) (b : PlacedBox) :
    (ofBox g numbered b).length = b.lines.length + 2 := by
  simp [ofBox]

theorem isBoxed_of_mem_ofBox {g : Glyphs} {numbered : Bool} {b : PlacedBox} {d : DrawnLine}
    (h : d ∈ ofBox g numbered b) : d.isBoxed = true := by
  simp only [ofBox, List.mem_append, List.mem_singleton, List.mem_map] at h
  rcases h with (rfl | ⟨_, -, rfl⟩) | rfl <;> rfl

/-- A box that leaves room for its padding beside every line is drawn as a frame. -/
theorem ofBox_frames (g : Glyphs) (numbered : Bool) {b : PlacedBox}
    (hfits : ∀ t ∈ b.lines, t.length + PlacedBox.padding ≤ b.width) :
    Frames g numbered b (ofBox g numbered b) where
  length := length_ofBox g numbered b
  width := by
    intro d hd
    simp only [ofBox, List.mem_append, List.mem_singleton, List.mem_map] at hd
    rcases hd with (rfl | ⟨⟨text, i⟩, ht, rfl⟩) | rfl
    · exact ⟨_, _, rfl, g.length_rule ..⟩
    · -- The inner width and the strokes with their blanks make up the width of the rules.
      have hroom : text.length + 6 ≤ b.width := hfits text (List.fst_mem_of_mem_zipIdx ht)
      have hinner : b.innerWidth + 4 = b.width := Nat.sub_add_cancel (by omega)
      have hlength := g.length_content (show text.length ≤ b.innerWidth by omega)
      refine ⟨_, _, rfl, ?_⟩
      simp only [hlength]
      omega
    · exact ⟨_, _, rfl, g.length_rule ..⟩
  top := rfl
  bottom := by
    simp only [ofBox]
    rw [List.getElem?_append_right (by simp)]
    simp [Glyphs.rule]
  content := by
    intro i text ht
    have hi : i < b.lines.length := (List.getElem?_eq_some_iff.1 ht).1
    refine ⟨b.innerWidth - text.length, ?_⟩
    simp only [ofBox, List.cons_append, List.nil_append, List.getElem?_cons_succ]
    rw [List.getElem?_append_left (by simpa using hi), List.getElem?_map, List.getElem?_zipIdx, ht]
    simp [Glyphs.content]

/-! ## Gaps -/

theorem length_withGaps (groups : List (List DrawnLine)) :
    (withGaps groups).length = total List.length groups + (groups.length - 1) := by
  induction groups with
  | nil => rfl
  | cons first rest ih =>
    cases rest with
    | nil => simp [withGaps]
    | cons second rest =>
      rw [withGaps] at ih ⊢
      simp only [List.intercalate_cons_cons, List.length_append, ih, total_cons, List.length_cons,
        List.length_nil]
      omega

/-- The gaps are no lines of boxes. -/
theorem filter_isBoxed_withGaps (groups : List (List DrawnLine)) :
    (withGaps groups).filter DrawnLine.isBoxed = groups.flatMap (·.filter DrawnLine.isBoxed) := by
  induction groups with
  | nil => rfl
  | cons first rest ih =>
    cases rest with
    | nil => simp [withGaps]
    | cons second rest =>
      rw [withGaps] at ih ⊢
      have hgap : [DrawnLine.blank].filter DrawnLine.isBoxed = [] := rfl
      rw [List.intercalate_cons_cons, List.filter_append, List.filter_append, ih, hgap,
        List.append_nil]
      rfl

/-- Each group stands together. -/
theorem infix_withGaps {groups : List (List DrawnLine)} {group : List DrawnLine}
    (h : group ∈ groups) : group <:+: withGaps groups := by
  induction groups with
  | nil => cases h
  | cons first rest ih =>
    cases rest with
    | nil =>
      obtain rfl := List.mem_singleton.1 h
      exact ⟨[], [], by simp [withGaps]⟩
    | cons second rest =>
      rw [withGaps] at ih ⊢
      rw [List.intercalate_cons_cons]
      rcases List.mem_cons.1 h with rfl | h
      · rw [List.append_assoc]
        exact List.infix_append [] _ _
      · exact (ih h).trans (List.suffix_append _ _).isInfix

/-! ## The whole drawing -/

theorem filter_isBoxed_ofSection (g : Glyphs) (numbered : Bool) (s : CanvasSection) :
    (ofSection g numbered s).filter DrawnLine.isBoxed =
      (s.rows.flatMap Row.boxes).flatMap (ofBox g numbered) := by
  have htitle : ((s.title?.map DrawnLine.title).toList).filter DrawnLine.isBoxed = [] := by
    cases s.title? <;> rfl
  have hrow : ∀ r : Row, (r.boxes.flatMap (ofBox g numbered)).filter DrawnLine.isBoxed =
      r.boxes.flatMap (ofBox g numbered) := by
    intro r
    refine List.filter_eq_self.2 ?_
    intro d hd
    obtain ⟨b, -, hd⟩ := List.mem_flatMap.1 hd
    exact isBoxed_of_mem_ofBox hd
  rw [ofSection, List.filter_append, htitle, List.nil_append, filter_isBoxed_withGaps,
    List.flatMap_map, List.flatMap_assoc]
  exact List.flatMap_congr fun r _ => hrow r

theorem filter_isBoxed_ofCanvas (settings : Settings) (c : Canvas) :
    (ofCanvas settings c).filter DrawnLine.isBoxed =
      c.boxes.flatMap (ofBox (.ofStyle settings.border) settings.showLineNumbers) := by
  rw [ofCanvas, filter_isBoxed_withGaps, List.flatMap_map, Canvas.boxes, List.flatMap_assoc]
  exact List.flatMap_congr fun s _ => filter_isBoxed_ofSection _ _ s

theorem length_ofSection (g : Glyphs) (numbered : Bool) (s : CanvasSection) :
    (ofSection g numbered s).length =
      s.title?.toList.length + total (·.lines.length + 2) (s.rows.flatMap Row.boxes) +
        (s.rows.length - 1) := by
  have htitle : (s.title?.map DrawnLine.title).toList.length = s.title?.toList.length := by
    cases s.title? <;> rfl
  rw [ofSection, List.length_append, htitle, length_withGaps, total_map, List.length_map,
    total_flatMap]
  simp only [length_flatMap_eq_total, length_ofBox]
  omega

/-- The lines of a drawing: those of the boxes, a title for each titled section, a gap for each
section after the first, and one for each row after the first of its section. -/
theorem length_ofCanvas (settings : Settings) (c : Canvas) :
    (ofCanvas settings c).length =
      total (·.lines.length + 2) c.boxes + c.sections.countP (·.title?.isSome) +
        (c.sections.length - 1) + total (·.rows.length - 1) c.sections := by
  rw [ofCanvas, length_withGaps, total_map, List.length_map, Canvas.boxes, total_flatMap]
  suffices h : total (fun s => (ofSection (.ofStyle settings.border) settings.showLineNumbers
      s).length) c.sections = total (fun s => total (·.lines.length + 2) (s.rows.flatMap Row.boxes))
        c.sections + c.sections.countP (·.title?.isSome) + total (·.rows.length - 1) c.sections by
    omega
  induction c.sections with
  | nil => rfl
  | cons s ss ih =>
    have htitle : s.title?.toList.length = if s.title?.isSome = true then 1 else 0 := by
      cases s.title? <;> rfl
    rw [total_cons, total_cons, total_cons, List.countP_cons, ih, length_ofSection, htitle]
    omega

theorem infix_ofSection (g : Glyphs) (numbered : Bool) {s : CanvasSection} {r : Row}
    {b : PlacedBox} (hr : r ∈ s.rows) (hb : b ∈ r.boxes) :
    ofBox g numbered b <:+: ofSection g numbered s := by
  have hbox : ofBox g numbered b <:+: r.boxes.flatMap (ofBox g numbered) :=
    List.infix_of_mem_flatten (List.mem_map_of_mem hb)
  have hrow : r.boxes.flatMap (ofBox g numbered) <:+:
      withGaps (s.rows.map fun r => r.boxes.flatMap (ofBox g numbered)) :=
    infix_withGaps (List.mem_map_of_mem hr)
  exact hbox.trans (hrow.trans (List.suffix_append _ _).isInfix)

theorem infix_ofCanvas (settings : Settings) {c : Canvas} {b : PlacedBox} (h : b ∈ c.boxes) :
    ofBox (.ofStyle settings.border) settings.showLineNumbers b <:+: ofCanvas settings c := by
  obtain ⟨s, hs, h⟩ := List.mem_flatMap.1 h
  obtain ⟨r, hr, hb⟩ := List.mem_flatMap.1 h
  exact (infix_ofSection _ _ hr hb).trans (infix_withGaps (List.mem_map_of_mem hs))

/-- Boxes that leave room for their padding are drawn as frames, each in one piece. -/
theorem exists_frames (settings : Settings) {c : Canvas}
    (hfits : ∀ b ∈ c.boxes, ∀ t ∈ b.lines, t.length + PlacedBox.padding ≤ b.width) :
    ∃ frames : List (List DrawnLine),
      List.Forall₂ (Frames (.ofStyle settings.border) settings.showLineNumbers) c.boxes frames ∧
        (ofCanvas settings c).filter DrawnLine.isBoxed = frames.flatten ∧
        ∀ f ∈ frames, f <:+: ofCanvas settings c := by
  refine ⟨c.boxes.map (ofBox (.ofStyle settings.border) settings.showLineNumbers), ?_, ?_, ?_⟩
  · rw [List.forall₂_map_right_iff, List.forall₂_same]
    intro b hb
    exact ofBox_frames _ _ (hfits b hb)
  · exact (filter_isBoxed_ofCanvas settings c).trans List.flatMap_def
  · intro f hf
    obtain ⟨b, hb, rfl⟩ := List.mem_map.1 hf
    exact infix_ofCanvas settings hb

end Drawing

theorem Canvas.boxes_ofNodes (l : Language) (settings : Settings) (nodes : List Node) :
    (ofNodes l settings nodes).boxes = (l.arrange nodes).map (PlacedBox.ofNode settings) := by
  rw [← Section.flatMap_nodes_ofNodes]
  exact boxes_ofSections settings (Section.ofNodes l nodes)

/-! ## What stops a drawing -/

/-- The most characters that a line of a text can have to be shown in a box. -/
def Drawing.textLimit : Nat := 65533

/-- Each line of the text can be shown in a box. -/
def Node.IsDrawable (n : Node) : Prop := ∀ t ∈ n.textLines, t.length ≤ Drawing.textLimit

/-- The longest line decides, since the box is as wide as it. -/
theorem PlacedBox.isDrawable_ofNode (settings : Settings) (n : Node) :
    (ofNode settings n).isDrawable = true ↔ n.IsDrawable := by
  have hshows := ofNode_shows settings n
  obtain ⟨longest, hlongest, hwidth⟩ := hshows.tight
  have hne : (ofNode settings n).lines.isEmpty = false := by
    rw [hshows.lines, List.isEmpty_eq_false_iff]
    exact List.ne_nil_of_mem hlongest
  have hinner : (ofNode settings n).innerWidth = longest.length + 2 := by
    rw [innerWidth, hwidth]
    rfl
  rw [isDrawable, hne, hinner, Bool.false_or, decide_eq_true_iff]
  constructor
  · intro hle t ht
    have hfits := hshows.fits t ht
    simp only [Glyphs.fillLimit, Drawing.textLimit] at hle ⊢
    omega
  · intro hall
    have hle := hall longest hlongest
    simp only [Glyphs.fillLimit, Drawing.textLimit] at hle ⊢
    omega

theorem Canvas.isDrawable_ofNodes (l : Language) (settings : Settings) (nodes : List Node) :
    (ofNodes l settings nodes).isDrawable = true ↔ ∀ n ∈ nodes, n.IsDrawable := by
  rw [isDrawable, boxes_ofNodes, List.all_map, List.all_eq_true]
  simp only [Function.comp_apply, PlacedBox.isDrawable_ofNode, (l.arrange_perm nodes).mem_iff]

namespace Drawing

variable {settings : Settings} {c : Canvas} {drawn : List DrawnLine}

theorem ofCanvas?_eq_some_iff :
    ofCanvas? settings c = some drawn ↔ c.isDrawable = true ∧ ofCanvas settings c = drawn := by
  rw [ofCanvas?]
  split <;> simp [*]

theorem ofCanvas?_eq_none_iff : ofCanvas? settings c = none ↔ ¬c.isDrawable = true := by
  rw [ofCanvas?]
  split <;> simp [*]

end Drawing

/-- Nodes can be drawn just when no line of their texts is too long. The boxes are those of the
nodes, and a drawing shows each box as a frame, in the order of the boxes and each frame in one
piece. Beside the frames there are a title for each titled section, a gap for each section after the
first, and one for each row after the first of its section. -/
theorem drawing_geometry (l : Language) (settings : Settings) (nodes : List Node) :
    let canvas := Canvas.ofNodes l settings nodes
    List.Forall₂ (PlacedBox.Shows settings) (l.arrange nodes) canvas.boxes ∧
      ((∃ drawn, Drawing.ofCanvas? settings canvas = some drawn) ↔ ∀ n ∈ nodes, n.IsDrawable) ∧
      ∀ drawn, Drawing.ofCanvas? settings canvas = some drawn →
        (∃ frames : List (List DrawnLine),
          List.Forall₂ (Frames (.ofStyle settings.border) settings.showLineNumbers) canvas.boxes
            frames ∧
          drawn.filter DrawnLine.isBoxed = frames.flatten ∧ ∀ f ∈ frames, f <:+: drawn) ∧
        drawn.length =
          total (·.lines.length + 2) canvas.boxes + canvas.sections.countP (·.title?.isSome) +
            (canvas.sections.length - 1) + total (·.rows.length - 1) canvas.sections := by
  intro canvas
  have hboxes : canvas.boxes = (l.arrange nodes).map (PlacedBox.ofNode settings) :=
    Canvas.boxes_ofNodes l settings nodes
  refine ⟨?_, ?_, ?_⟩
  · rw [hboxes, List.forall₂_map_right_iff, List.forall₂_same]
    intro n _
    exact PlacedBox.ofNode_shows settings n
  · rw [← Canvas.isDrawable_ofNodes l settings nodes]
    constructor
    · rintro ⟨drawn, h⟩
      exact (Drawing.ofCanvas?_eq_some_iff.1 h).1
    · intro h
      exact ⟨_, Drawing.ofCanvas?_eq_some_iff.2 ⟨h, rfl⟩⟩
  · intro drawn h
    obtain ⟨-, rfl⟩ := Drawing.ofCanvas?_eq_some_iff.1 h
    refine ⟨Drawing.exists_frames settings ?_, Drawing.length_ofCanvas settings canvas⟩
    intro b hb
    rw [hboxes] at hb
    obtain ⟨n, -, rfl⟩ := List.mem_map.1 hb
    exact (PlacedBox.ofNode_shows settings n).fits

/-- A node whose text is a line of so many letters. -/
def Node.ofLetters (k : Nat) : Node := ⟨List.replicate k 'x', 0, .statement, 1, ⟨0, k⟩⟩

theorem Node.textLines_ofLetters (k : Nat) : (ofLetters k).textLines = [List.replicate k 'x'] :=
  Text.splitLines_of_not_mem (by simp [ofLetters])

theorem Node.isDrawable_ofLetters (k : Nat) :
    (ofLetters k).IsDrawable ↔ k ≤ Drawing.textLimit := by
  simp [IsDrawable, textLines_ofLetters]

/-- Two rules and the line between them, and nothing beside the box. -/
theorem Canvas.count_ofLetters (k : Nat) :
    let canvas := ofNodes .indentation .default [.ofLetters k]
    total (·.lines.length + 2) canvas.boxes + canvas.sections.countP (·.title?.isSome) +
      (canvas.sections.length - 1) + total (·.rows.length - 1) canvas.sections = 3 := by
  intro canvas
  have hboxes : canvas.boxes = [.ofNode .default (.ofLetters k)] := rfl
  rw [hboxes, total_cons, (PlacedBox.ofNode_shows _ _).lines, Node.textLines_ofLetters]
  rfl

/-- The longest line that can be shown is drawn with its two rules. -/
theorem drawing_geometry_longest :
    let canvas := Canvas.ofNodes .indentation .default [.ofLetters 65533]
    ∃ drawn, Drawing.ofCanvas? .default canvas = some drawn ∧ drawn.length = 3 := by
  intro canvas
  obtain ⟨-, hexists, hshown⟩ := drawing_geometry .indentation .default [.ofLetters 65533]
  obtain ⟨drawn, hdrawn⟩ := hexists.2 (by simp [Node.isDrawable_ofLetters, Drawing.textLimit])
  exact ⟨drawn, hdrawn, (hshown drawn hdrawn).2.trans (Canvas.count_ofLetters 65533)⟩

/-- With one letter more there is no drawing. -/
theorem drawing_stops_at_long_line :
    Drawing.ofCanvas? .default (Canvas.ofNodes .indentation .default [.ofLetters 65534]) =
      none := by
  rw [Drawing.ofCanvas?_eq_none_iff, Canvas.isDrawable_ofNodes]
  simp [Node.isDrawable_ofLetters, Drawing.textLimit]

/-! ## Charts -/

/-- No line of a text in the flow of the source is too long to be drawn. -/
def Chart.IsDrawable (l : Language) (source : Chars) : Prop :=
  ∀ n ∈ (l.flow source).nodes, n.IsDrawable

namespace Chart

variable {l : Language} {settings : Settings} {source : Chars} {drawn : List DrawnLine}

/-- The settings do not matter. -/
theorem isDrawable_canvas (l : Language) (settings : Settings) (source : Chars) :
    (canvas l settings source).isDrawable = true ↔ IsDrawable l source :=
  Canvas.isDrawable_ofNodes l settings (l.flow source).nodes

theorem isDrawable_of_lines? (h : lines? l settings source = some drawn) : IsDrawable l source :=
  (isDrawable_canvas l settings source).1 (Drawing.ofCanvas?_eq_some_iff.1 h).1

theorem lines?_of_isDrawable (h : IsDrawable l source) (settings : Settings) :
    lines? l settings source = some (lines l settings source) :=
  Drawing.ofCanvas?_eq_some_iff.2 ⟨(isDrawable_canvas l settings source).2 h, rfl⟩

end Chart

end NestChart

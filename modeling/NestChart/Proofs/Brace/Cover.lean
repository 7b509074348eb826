import NestChart.Proofs.Brace.WellFormed

/-!
# NestChart.Proofs.Brace.Cover

Nothing of a source is lost and nothing is shown twice. `Tiles` lays pieces into a text one behind
the other, with gaps of blanks, braces and terminators between them; however a line falls apart, its
pieces tile it (`tiles_ofText`). A line that opens no comment shows exactly its pieces
(`run_nodes`), so the nodes of a source without comment marks tile the source.
-/

namespace NestChart.Brace

open Text

/-- What may stand between the nodes of a source. -/
def isGap (c : Char) : Bool := isBlank c || c == '{' || c == '}' || c == ';'

theorem gap_of_blank {cs : Chars} (h : ∀ c ∈ cs, isBlank c = true) : ∀ c ∈ cs, isGap c = true := by
  intro c hc
  simp [isGap, h c hc]

/-- The blanks in front of a text. -/
theorem gap_takeWhile (cs : Chars) : ∀ c ∈ cs.takeWhile isBlank, isGap c = true :=
  gap_of_blank fun _ hc => isBlank_of_mem_takeWhile hc

/-- The pieces stand in the text, which begins at byte `start`, one behind the other, and around
them stand gaps. -/
inductive Tiles : Chars → Nat → List Piece → Prop
  | gap {text : Chars} {start : Nat} (h : ∀ c ∈ text, isGap c = true) : Tiles text start []
  | piece {gap text rest : Chars} {start : Nat} {ps : List Piece} (h : ∀ c ∈ gap, isGap c = true)
      (hrest : Tiles rest (start + byteLength gap + byteLength text) ps) :
      Tiles (gap ++ text ++ rest) start (⟨text, start + byteLength gap⟩ :: ps)

namespace Tiles

variable {a b text : Chars} {start : Nat} {ps qs : List Piece}

theorem whole (text : Chars) (start : Nat) : Tiles text start [⟨text, start⟩] := by
  have h : Tiles ([] ++ text ++ []) start [⟨text, start + byteLength []⟩] :=
    .piece (by simp) (.gap (by simp))
  simpa using h

/-- A gap in front. -/
theorem gap_append (ha : ∀ c ∈ a, isGap c = true) (h : Tiles b (start + byteLength a) ps) :
    Tiles (a ++ b) start ps := by
  cases h with
  | gap hb => exact .gap (List.forall_mem_append.2 ⟨ha, hb⟩)
  | @piece gap text rest _ ps hg hrest =>
    have hadd : start + byteLength a + byteLength gap = start + byteLength (a ++ gap) := by
      rw [byteLength_append, Nat.add_assoc]
    rw [hadd] at hrest ⊢
    have := Tiles.piece (List.forall_mem_append.2 ⟨ha, hg⟩) hrest
    simpa only [List.append_assoc] using this

theorem append (h : Tiles a start ps) (hb : Tiles b (start + byteLength a) qs) :
    Tiles (a ++ b) start (ps ++ qs) := by
  induction h with
  | gap ha => exact gap_append ha hb
  | @piece gap text rest start ps hg _ ih =>
    rw [List.append_assoc, List.cons_append]
    refine .piece hg (ih ?_)
    rw [byteLength_append, byteLength_append] at hb
    rwa [Nat.add_assoc, Nat.add_assoc, ← Nat.add_assoc (byteLength gap)]

/-- A gap behind. -/
theorem append_gap (h : Tiles a start ps) (hb : ∀ c ∈ b, isGap c = true) :
    Tiles (a ++ b) start ps := by
  have hboth : Tiles (a ++ b) start (ps ++ []) := h.append (.gap hb)
  rwa [List.append_nil] at hboth

/-- Blanks behind a text are a gap. -/
theorem of_trimEnd (h : Tiles (trimEnd text) start ps) : Tiles text start ps := by
  obtain ⟨blanks, he, hb⟩ := exists_trimEnd_append text
  have := h.append_gap (gap_of_blank hb)
  rwa [he] at this

/-- The back of a text is placed by what is left of its bytes. -/
theorem append_trimStart (h : Tiles a start ps)
    (hb : Tiles (trimStart b) (start + (byteLength (a ++ b) - byteLength (trimStart b))) qs) :
    Tiles (a ++ b) start (ps ++ qs) := by
  have he := takeWhile_append_trimStart b
  have hlen : byteLength (b.takeWhile isBlank) + byteLength (trimStart b) = byteLength b := by
    rw [← byteLength_append, he]
  have hstart : start + (byteLength (a ++ b) - byteLength (trimStart b)) =
      start + byteLength a + byteLength (b.takeWhile isBlank) := by
    rw [byteLength_append]
    omega
  rw [hstart] at hb
  have := gap_append (gap_takeWhile b) hb
  rw [he] at this
  exact h.append this

/-! ### What tiles promise -/

theorem le_start (h : Tiles text start ps) : ∀ p ∈ ps, start ≤ p.start := by
  induction h with
  | gap => simp
  | piece _ _ ih =>
    intro p hp
    rcases List.mem_cons.1 hp with rfl | hp
    · exact Nat.le_add_right _ _
    · have := ih p hp
      omega

theorem pairwise (h : Tiles text start ps) :
    ps.Pairwise fun p q => p.span.stop ≤ q.span.start := by
  induction h with
  | gap => exact .nil
  | piece _ hrest ih => exact List.pairwise_cons.2 ⟨fun q hq => hrest.le_start q hq, ih⟩

/-- Every piece stands where it says. -/
theorem standsAt (h : Tiles text start ps) :
    ∀ p ∈ ps, ∃ i, p.start = start + i ∧ StandsAt text p.text i := by
  induction h with
  | gap => simp
  | @piece gap text rest start ps hg _ ih =>
    intro p hp
    rcases List.mem_cons.1 hp with rfl | hp
    · refine ⟨byteLength gap, rfl, ?_⟩
      exact ⟨gap, rest, rfl, rfl⟩
    · obtain ⟨i, hi, hs⟩ := ih p hp
      refine ⟨byteLength (gap ++ text) + i, ?_, (StandsAt.right (gap ++ text) rest).trans hs⟩
      rw [byteLength_append]
      omega

/-- Every character lies in a piece or in a gap. -/
theorem covers (h : Tiles text start ps) {c : Char} {i : Nat} (hc : StandsAt text [c] i) :
    isGap c = true ∨
      ∃ p ∈ ps, p.span.start ≤ start + i ∧ start + i + c.utf8Size ≤ p.span.stop := by
  induction h generalizing i with
  | gap hg => exact .inl (hg c (hc.mem (by simp)))
  | @piece gap text rest start ps hg _ ih =>
    rcases hc.of_append_singleton with hfront | ⟨k, rfl, hback⟩
    · rcases hfront.of_append_singleton with hgap | ⟨k, rfl, htext⟩
      · exact .inl (hg c (hgap.mem (by simp)))
      · have hstop := htext.stop_le
        rw [byteLength_cons, byteLength_nil] at hstop
        refine .inr ⟨⟨text, start + byteLength gap⟩, by simp, ?_, ?_⟩
        · simp only [Piece.span]
          omega
        · simp only [Piece.span]
          omega
    · rcases ih hback with hgap | ⟨p, hp, hlo, hhi⟩
      · exact .inl hgap
      · rw [byteLength_append]
        refine .inr ⟨p, by simp [hp], ?_, ?_⟩
        · omega
        · omega

end Tiles

/-! ## Parts of a line -/

/-- Only the brace and the blanks before it are taken off the end. -/
theorem exists_splitOpener_append (text : Chars) :
    ∃ gap, (splitOpener text).1 ++ gap = text ∧ ∀ c ∈ gap, isGap c = true := by
  by_cases hlast : text.getLast? = some '{'
  · obtain ⟨front, rfl⟩ := List.getLast?_eq_some_iff.1 hlast
    obtain ⟨blanks, he, hb⟩ := exists_trimEnd_append front
    refine ⟨blanks ++ ['{'], ?_, ?_⟩
    · rw [splitOpener_concat, ← List.append_assoc, he]
    · exact List.forall_mem_append.2 ⟨gap_of_blank hb, by simp [isGap]⟩
  · refine ⟨[], ?_, by simp⟩
    rw [splitOpener_of_getLast? hlast, List.append_nil]

theorem Tiles.of_splitOpener {text : Chars} {start : Nat} {ps : List Piece}
    (h : Tiles (splitOpener text).1 start ps) : Tiles text start ps := by
  obtain ⟨gap, he, hg⟩ := exists_splitOpener_append text
  have := h.append_gap hg
  rwa [he] at this

/-- A statement with blanks around it, or nothing but a terminator. -/
theorem tiles_trim (p : Chars) (start : Nat) :
    Tiles p start [⟨trim p, start + byteLength (p.takeWhile isBlank)⟩] := by
  obtain ⟨blanks, he, hb⟩ := exists_trim_append p
  have h := Tiles.gap_append (gap_takeWhile p) (Tiles.whole (trim p) (start + byteLength _))
  have := h.append_gap (gap_of_blank hb)
  rwa [he] at this

theorem tiles_place (base start : Nat) (ps : List Chars) :
    Tiles ps.flatten (base + start)
      ((Statement.place start ps).map fun s => ⟨s.text, base + s.start⟩) := by
  induction ps generalizing start with
  | nil => exact .gap (by simp)
  | cons p ps ih =>
    have hrest := ih (start + byteLength p)
    rw [← Nat.add_assoc] at hrest
    simp only [Statement.place, List.flatten_cons]
    split
    · rename_i hempty
      refine Tiles.gap_append ?_ hrest
      obtain ⟨blanks, he, hb⟩ := exists_trim_append p
      -- What is left without the blanks is nothing or a terminator.
      have htrim : ∀ c ∈ trim p, isGap c = true := by
        rcases hempty with hempty | hempty
        · simp [hempty]
        · simp [hempty, isGap]
      rw [← he]
      exact List.forall_mem_append.2
        ⟨List.forall_mem_append.2 ⟨gap_takeWhile p, htrim⟩, gap_of_blank hb⟩
    · rw [List.map_cons, ← Nat.add_assoc]
      exact (tiles_trim p (base + start)).append hrest

theorem tiles_segments (text : Chars) (start : Nat) :
    Tiles text start ((Statement.segments text).map fun s => ⟨s.text, start + s.start⟩) := by
  have := tiles_place start 0 (Statement.pieces text)
  rwa [Statement.flatten_pieces] at this

/-- However a text falls apart, nothing but gaps is left out. -/
theorem tiles_ofText (text : Chars) (start : Nat) :
    Tiles text start (Parts.ofText text start).pieces := by
  induction text using Parts.ofText_induction generalizing start with
  | nil =>
    rw [Parts.ofText_nil]
    exact .gap (by simp)
  | closer cs ih =>
    rw [Parts.ofText_closer rfl, Parts.pieces]
    have hbrace : Tiles ['}'] start [] := .gap (by simp [isGap])
    exact hbrace.append_trimStart (ih _)
  | opener =>
    rw [Parts.ofText_opener]
    exact .gap (by simp [isGap])
  | directive text hd =>
    rw [Parts.ofText_directive hd]
    exact .whole text start
  | beside text code behind hbare hm ih =>
    rw [Parts.ofText_beside hbare hm, Parts.pieces]
    obtain ⟨rfl, -, -⟩ := Comment.cut?_append hm
    exact (ih start).of_trimEnd.append (.whole behind _)
  | both text left right hbare hm hb ihl ihr =>
    rw [Parts.ofText_both hbare hm hb, Parts.pieces]
    obtain ⟨rfl, -, -⟩ := Block.cut?_append hb
    exact (ihl start).of_trimEnd.append_trimStart (ihr _)
  | undivided text hu ih =>
    have hbody : Tiles text start [⟨(splitOpener text).1, start⟩] :=
      (Tiles.whole _ start).of_splitOpener
    rw [Parts.ofText_undivided hu]
    split
    · exact .whole text start
    · exact .whole text start
    · split
      · rename_i head rest hl
        obtain ⟨behind, rfl, rfl, -⟩ := Shape.label?_eq_some hl
        rw [Parts.pieces]
        exact (Tiles.whole head start).append_trimStart (ih _ _ hl _)
      · exact hbody
    · exact hbody
    · exact hbody
    · exact (tiles_segments _ start).of_splitOpener

/-! ## Nodes of a line -/

namespace State

/-- A node without its depth, category and line. -/
def shown (n : Node) : Chars × Span := (n.text, n.span)

def ofPiece (p : Piece) : Chars × Span := (p.text, p.span)

theorem placeComment_nodes {p : Piece} (h : Comment.start p.text ≠ .opens) (s : State)
    (depth line : Nat) : (s.placeComment p depth line).flow.nodes.map shown = [ofPiece p] := by
  unfold placeComment
  split
  · rename_i ho
    exact absurd ho h
  · rfl

/-- A line that opens no comment shows its pieces, each once and in order. -/
theorem run_nodes (line : Nat) {parts : Parts}
    (h : ∀ p ∈ parts.pieces, Comment.start p.text ≠ .opens) (s : State) :
    (run line parts s).flow.nodes.map shown = parts.pieces.map ofPiece := by
  induction parts generalizing s with
  | nothing => rfl
  | closer rest ih => exact ih h _
  | opener => rfl
  | comment p => exact placeComment_nodes (h p (by simp [Parts.pieces])) s _ line
  | directive p => rfl
  | header p opens => rfl
  | label p rest ih =>
    have hlabel : (s.placeLabel p line).flow.nodes.map shown = [ofPiece p] := by
      unfold placeLabel
      split <;> rfl
    have hrest := ih (fun q hq => h q (by simp [Parts.pieces, hq])) (s.placeLabel p line).state
    simp only [run, Step.andThen, Flow.nodes_append, List.map_append, hlabel, hrest]
    rfl
  | declaration category p opens => rfl
  | statements ps opens =>
    simp only [run, placeStatements, Parts.pieces, List.map_map]
    rfl
  | both left right ihl ihr =>
    have hl := ihl (fun q hq => h q (by simp [Parts.pieces, hq])) s
    have hr := ihr (fun q hq => h q (by simp [Parts.pieces, hq])) (run line left s).state
    simp only [run, Step.andThen, Flow.nodes_append, List.map_append, Parts.pieces, hl, hr]
  | beside code behind ih =>
    have hcode := ih (fun q hq => h q (by simp [Parts.pieces, hq])) s
    have hbehind := placeComment_nodes (h behind (by simp [Parts.pieces]))
      (run line code s).state
    simp only [run, Step.andThen, Flow.nodes_append, List.map_append, Parts.pieces, hcode, hbehind]
    rfl

/-- The state `s` and the flow `f` behind the part `before` of a source without comment marks. -/
structure Covers (before : Chars) (s : State) (f : Flow) : Prop where
  no_comment : s.comment? = none
  tiled : ∃ ps, Tiles before 0 ps ∧ f.nodes.map shown = ps.map ofPiece

namespace Covers

variable {source before after : Chars} {l : Line} {s : State} {f : Flow}

theorem start : Covers [] .start .empty := ⟨rfl, [], .gap (by simp), rfl⟩

/-- The pieces of a line tile it, with the blanks around its trimmed text. -/
theorem exists_tiles (hl : l.Follows source before after) (hu : Uncommented l.trimmed)
    (hs : s.comment? = none) :
    ∃ ps, Tiles l.text (byteLength before) ps ∧
      (s.push l).flow.nodes.map shown = ps.map ofPiece := by
  obtain ⟨blanks, he, hb⟩ := l.exists_trimmed_append
  by_cases hne : l.trimmed = []
  · refine ⟨[], .gap ?_, by rw [push_of_blank hne]; rfl⟩
    rw [← he, hne, List.append_nil]
    exact List.forall_mem_append.2 ⟨gap_takeWhile l.content, gap_of_blank hb⟩
  · have hstart : l.trimmedSpan.start =
        byteLength before + byteLength (l.content.takeWhile isBlank) := by
      rw [Line.trimmedSpan_of_ne_nil hne, hl.start_eq]
    have htiles := tiles_ofText l.trimmed l.trimmedSpan.start
    have hopens : ∀ p ∈ (Parts.ofText l.trimmed l.trimmedSpan.start).pieces,
        Comment.start p.text ≠ .opens := by
      intro p hp ho
      rw [hu.start_of_mem_pieces l.trimmed_trimmed hp] at ho
      cases ho
    refine ⟨_, ?_, by rw [push_of_ne_nil hs hne]; exact run_nodes l.number hopens s⟩
    rw [hstart] at htiles ⊢
    have := (Tiles.gap_append (gap_takeWhile l.content) htiles).append_gap (gap_of_blank hb)
    rwa [he] at this

theorem push (hc : Uncommented source) (h : Covers before s f) (hl : l.Follows source before after) :
    Covers (before ++ l.text) (s.push l).state (f ++ (s.push l).flow) := by
  have hu : Uncommented l.trimmed := hc.of_standsAt (hl.standsAt_text.trans l.standsAt_trimmed)
  obtain ⟨ps, hps, hshown⟩ := h.tiled
  obtain ⟨qs, hqs, hline⟩ := exists_tiles hl hu h.no_comment
  refine ⟨comment?_push h.no_comment hu, ps ++ qs, hps.append ?_, ?_⟩
  · rwa [Nat.zero_add]
  · rw [Flow.nodes_append, List.map_append, List.map_append, hshown, hline]

end Covers
end State

/-- The nodes of a source without comment marks tile it. -/
theorem tiles_source {source : Chars} (h : Uncommented source) :
    ∃ ps, Tiles source 0 ps ∧
      (builder.flow source).nodes.map State.shown = ps.map State.ofPiece := by
  have hc := @Builder.run_ofSource _ builder source State.Covers _ State.Covers.start
    fun _ _ _ _ _ hl hc => hc.push h hl
  obtain ⟨ps, hps, hshown⟩ := hc.tiled
  refine ⟨ps, hps, ?_⟩
  rw [flow_eq_run hc.no_comment]
  exact hshown

/-- In a source without comment marks the nodes stand one behind the other, each shows exactly the
bytes of its span, and every character that no span holds is blank, a brace or a terminator. -/
theorem nodes_cover_source {source : Chars} (hl : contains ['/', '/'] source = false)
    (hb : contains ['/', '*'] source = false) :
    let nodes := (builder.flow source).nodes
    (∀ n ∈ nodes, n.span.start < n.span.stop ∧ Flow.slice source n.span = n.text) ∧
      (nodes.Pairwise fun n m => n.span.stop ≤ m.span.start) ∧
      ∀ c i, StandsAt source [c] i →
        (isBlank c = true ∨ c = '{' ∨ c = '}' ∨ c = ';') ∨
          ∃ n ∈ nodes, n.span.start ≤ i ∧ i + c.utf8Size ≤ n.span.stop := by
  intro nodes
  obtain ⟨ps, hps, hshown⟩ := tiles_source ⟨hl, hb⟩
  have hspans : nodes.map Node.span = ps.map Piece.span := by
    have := congrArg (List.map Prod.snd) hshown
    rw [List.map_map, List.map_map] at this
    exact this
  refine ⟨?_, ?_, ?_⟩
  · intro n hn
    have hmem : State.shown n ∈ ps.map State.ofPiece := hshown ▸ List.mem_map_of_mem hn
    obtain ⟨p, hp, he⟩ := List.mem_map.1 hmem
    obtain ⟨htext, hspan⟩ : p.text = n.text ∧ p.span = n.span := Prod.mk.inj he
    obtain ⟨i, hi, hs⟩ := hps.standsAt p hp
    have hne := ((builder_wellFormed source).node n hn).text_ne_nil
    have hpos : byteLength n.text ≠ 0 := fun h => hne (byteLength_eq_zero.1 h)
    rw [Nat.zero_add] at hi
    rw [← hspan, Piece.span, htext, hi]
    refine ⟨?_, ?_⟩
    · simp only
      omega
    · rw [← htext]
      exact slice_of_standsAt hs
  · have hsorted : (ps.map Piece.span).Pairwise fun a b => a.stop ≤ b.start :=
      List.pairwise_map.2 hps.pairwise
    rw [← hspans] at hsorted
    exact List.pairwise_map.1 hsorted
  · intro c i hc
    rcases hps.covers hc with hgap | ⟨p, hp, hlo, hhi⟩
    · refine .inl ?_
      simpa only [isGap, Bool.or_eq_true, beq_iff_eq, or_assoc] using hgap
    · have hmem : p.span ∈ nodes.map Node.span := hspans ▸ List.mem_map_of_mem hp
      obtain ⟨n, hn, he⟩ := List.mem_map.1 hmem
      rw [Nat.zero_add] at hlo hhi
      exact .inr ⟨n, hn, he ▸ hlo, he ▸ hhi⟩

/-- Both bytes of a letter in a label, between braces, stray terminators and wide blanks, are
shown. -/
theorem nodes_cover_source_letter :
    let source := "switch (k) \x7b ;;\u3000case 'é': f(\"\x7d;\"); g() \x7d h()".toList
    contains ['/', '/'] source = false ∧ contains ['/', '*'] source = false ∧
      StandsAt source ['é'] 24 ∧
      ∃ n ∈ (builder.flow source).nodes, n.span.start ≤ 24 ∧ 26 ≤ n.span.stop := by
  intro source
  have hc : StandsAt source ['é'] 24 :=
    ⟨"switch (k) \x7b ;;\u3000case '".toList, "': f(\"\x7d;\"); g() \x7d h()".toList,
      by decide, by decide⟩
  have hl : contains ['/', '/'] source = false := by decide
  have hb : contains ['/', '*'] source = false := by decide
  refine ⟨hl, hb, hc, ?_⟩
  exact ((nodes_cover_source hl hb).2.2 _ _ hc).resolve_left (by decide)

end NestChart.Brace

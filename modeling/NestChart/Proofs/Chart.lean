import NestChart.Chart
import NestChart.Proofs.Packing

/-!
# NestChart.Proofs.Chart

Each node gets its box. The boxes of a chart are those of the nodes in the order of the sections
(`canvas_shows_each_node`): sections are cut out of the nodes by the rank of their category, which
puts the nodes into order by a stable sort (`flatMap_filter_rank`), and rows are cut out of sections
and keep all boxes in place (`Canvas.boxes_ofSections`).
-/

namespace NestChart

/-! ## Sorting by rank -/

section Rank

variable {α : Type} (rank : α → Nat)

/-- In the order of the ranks; what has one rank keeps its order. -/
def sortByRank (xs : List α) : List α := xs.mergeSort fun a b => rank a ≤ rank b

theorem pairwise_sortByRank (xs : List α) :
    (sortByRank rank xs).Pairwise fun a b => rank a ≤ rank b := by
  refine (List.pairwise_mergeSort ?_ ?_ xs).imp fun h => of_decide_eq_true h
  · intro a b c hab hbc
    simp only [decide_eq_true_eq] at hab hbc ⊢
    exact Nat.le_trans hab hbc
  · intro a b
    simpa using Nat.le_total (rank a) (rank b)

theorem filter_sortByRank (xs : List α) (r : Nat) :
    (sortByRank rank xs).filter (rank · = r) = xs.filter (rank · = r) := by
  have hperm : ((sortByRank rank xs).filter (rank · = r)).Perm (xs.filter (rank · = r)) :=
    (List.mergeSort_perm xs _).filter _
  -- What has rank `r` is in order already, so sorting keeps it as a sublist.
  have hsub : (xs.filter (rank · = r)).Sublist (sortByRank rank xs) := by
    refine List.sublist_mergeSort ?_ ?_ ?_ List.filter_sublist
    · intro a b c hab hbc
      simp only [decide_eq_true_eq] at hab hbc ⊢
      exact Nat.le_trans hab hbc
    · intro a b
      simpa using Nat.le_total (rank a) (rank b)
    · refine List.pairwise_filter.2 (List.pairwise_of_forall fun a b ha hb => ?_)
      simp only [decide_eq_true_eq] at ha hb ⊢
      omega
  have hfilter := hsub.filter (rank · = r)
  rw [List.filter_filter] at hfilter
  simp only [Bool.and_self] at hfilter
  exact (hfilter.eq_of_length hperm.length_eq.symm).symm

/-- Lists in the order of the ranks are told apart by what they hold of each rank. -/
theorem eq_of_filter_rank_eq {xs ys : List α} (hx : xs.Pairwise fun a b => rank a ≤ rank b)
    (hy : ys.Pairwise fun a b => rank a ≤ rank b)
    (h : ∀ r, xs.filter (rank · = r) = ys.filter (rank · = r)) : xs = ys := by
  have hmem : ∀ a, a ∈ xs ↔ a ∈ ys := by
    intro a
    have := congrArg (a ∈ ·) (h (rank a))
    simpa using this
  induction xs generalizing ys with
  | nil => exact (List.eq_nil_iff_forall_not_mem.2 fun a ha => by simpa using (hmem a).2 ha).symm
  | cons a xs ih =>
    cases ys with
    | nil => exact absurd ((hmem a).1 (by simp)) (by simp)
    | cons b ys =>
      obtain ⟨hax, hxs⟩ := List.pairwise_cons.1 hx
      obtain ⟨hby, hys⟩ := List.pairwise_cons.1 hy
      -- Each head occurs in the other list, so neither has the lower rank.
      have hle : rank b ≤ rank a := by
        rcases List.mem_cons.1 ((hmem a).1 (by simp)) with rfl | ha
        · exact Nat.le_refl _
        · exact hby a ha
      have hge : rank a ≤ rank b := by
        rcases List.mem_cons.1 ((hmem b).2 (by simp)) with rfl | hb
        · exact Nat.le_refl _
        · exact hax b hb
      have hhead := h (rank a)
      rw [List.filter_cons_of_pos (by simp),
        List.filter_cons_of_pos (by simpa using Nat.le_antisymm hle hge)] at hhead
      obtain ⟨rfl, -⟩ := List.cons.inj hhead
      have htail : ∀ r, xs.filter (rank · = r) = ys.filter (rank · = r) := by
        intro r
        have hr := h r
        rw [List.filter_cons, List.filter_cons] at hr
        split at hr
        · exact (List.cons.inj hr).2
        · exact hr
      refine congrArg (a :: ·) (ih hxs hys htail fun c => ?_)
      have := congrArg (c ∈ ·) (htail (rank c))
      simpa using this

/-- Of what is put together by rank only one part has a given rank. -/
theorem filter_flatMap_rank (xs : List α) (r bound : Nat) :
    ((List.range bound).flatMap fun s => xs.filter (rank · = s)).filter (rank · = r) =
      if r < bound then xs.filter (rank · = r) else [] := by
  induction bound with
  | zero => rfl
  | succ bound ih =>
    rw [List.range_succ, List.flatMap_append, List.filter_append, ih, List.flatMap_singleton,
      List.filter_filter]
    by_cases hr : r = bound
    · simp [hr]
    · have hnone : xs.filter (fun x => decide (rank x = r) && decide (rank x = bound)) = [] := by
        refine List.filter_eq_nil_iff.2 fun x _ => ?_
        simp only [Bool.and_eq_true, decide_eq_true_eq]
        omega
      rw [hnone, List.append_nil]
      exact if_congr (by omega) rfl rfl

/-- Putting the ranks one behind the other is sorting by rank. -/
theorem flatMap_filter_rank {bound : Nat} {xs : List α} (h : ∀ x ∈ xs, rank x < bound) :
    (List.range bound).flatMap (fun r => xs.filter (rank · = r)) = sortByRank rank xs := by
  refine eq_of_filter_rank_eq rank ?_ (pairwise_sortByRank rank xs) fun r => ?_
  · refine List.pairwise_flatMap.2 ⟨?_, ?_⟩
    · intro r _
      refine List.pairwise_filter.2 (List.pairwise_of_forall fun a b ha hb => ?_)
      simp only [decide_eq_true_eq] at ha hb
      omega
    · refine List.pairwise_lt_range.imp fun hrs a ha b hb => ?_
      simp only [List.mem_filter, decide_eq_true_eq] at ha hb
      omega
  · rw [filter_sortByRank, filter_flatMap_rank]
    split
    · rfl
    · rename_i hr
      refine (List.filter_eq_nil_iff.2 fun x hx => ?_).symm
      have := h x hx
      simp only [decide_eq_true_eq]
      omega

end Rank

/-! ## Sections by rank -/

/-- The place of a category among the sections of a chart; an indentation language has one section
for all. -/
def Language.rank : Language → Category → Nat
  | .indentation, _ => 0
  | .braces, .comment => 0
  | .braces, .directive => 1
  | .braces, .declaration => 2
  | .braces, .prototype => 3
  | .braces, .controlHeader => 4
  | .braces, .statement => 4

/-- The titles of the sections in their order. -/
def Language.titles : Language → List (Option Chars)
  | .indentation => [none]
  | .braces => ["Comments", "Preprocessor Directives", "Declarations", "Function Signatures",
      "Function Logic"].map fun title => some title.toList

/-- The nodes in the order in which a chart shows them. -/
def Language.arrange (l : Language) (nodes : List Node) : List Node :=
  match l with
  | .indentation => nodes
  | .braces => sortByRank (Language.braces.rank ·.category) nodes

theorem Language.arrange_perm (l : Language) (nodes : List Node) : (l.arrange nodes).Perm nodes := by
  cases l with
  | indentation => exact .refl _
  | braces => exact List.mergeSort_perm _ _

theorem Language.rank_lt (l : Language) (c : Category) : l.rank c < l.titles.length := by
  cases l with
  | indentation => exact Nat.zero_lt_one
  | braces => cases c <;> decide

namespace Section

/-- The section under a title, with the nodes whose category has its rank. -/
def ofRank (l : Language) (nodes : List Node) (p : Option Chars × Nat) : Section :=
  ⟨p.1, nodes.filter (l.rank ·.category = p.2)⟩

/-- Each category is in the group of its rank. -/
theorem contains_groups (c : Category) :
    ∀ p ∈ groups.zipIdx, p.1.2.contains c = decide (Language.braces.rank c = p.2) := by
  cases c <;> decide

/-- Each title has the nodes of its rank; titles without nodes are left out. -/
theorem ofNodes_eq (l : Language) (nodes : List Node) :
    ofNodes l nodes = (l.titles.zipIdx.map (ofRank l nodes)).filter fun s => !s.nodes.isEmpty := by
  unfold ofNodes
  refine congrArg (List.filter _) ?_
  cases l with
  | indentation =>
    have hall : nodes.filter (Language.indentation.rank ·.category = 0) = nodes :=
      List.filter_eq_self.2 fun _ _ => rfl
    exact congrArg (fun ns => [Section.mk none ns]) hall.symm
  | braces =>
    have hgroups : Language.braces.groupsSections = true := rfl
    have htitles : Language.braces.titles.zipIdx = groups.zipIdx.map fun p => (some p.1.1, p.2) :=
      rfl
    rw [if_pos hgroups, htitles, ← List.zipIdx_map_fst 0 groups, List.map_map, List.map_map,
      List.zipIdx_map_fst]
    refine List.map_congr_left fun p hp => ?_
    have hnodes : nodes.filter (fun n => p.1.2.contains n.category) =
        nodes.filter (Language.braces.rank ·.category = p.2) :=
      List.filter_congr fun n _ => contains_groups n.category p hp
    exact congrArg (Section.mk (some p.1.1)) hnodes

/-- Leaving out what holds nothing leaves out no node. -/
theorem flatMap_nodes_filter (ss : List Section) :
    (ss.filter fun s => !s.nodes.isEmpty).flatMap nodes = ss.flatMap nodes := by
  induction ss with
  | nil => rfl
  | cons s ss ih =>
    by_cases hs : s.nodes = []
    · rw [List.filter_cons_of_neg (by simp [hs]), ih, List.flatMap_cons, hs, List.nil_append]
    · rw [List.filter_cons_of_pos (by simp [hs]), List.flatMap_cons, ih, List.flatMap_cons]

theorem flatMap_nodes_ofNodes (l : Language) (ns : List Node) :
    (ofNodes l ns).flatMap nodes = l.arrange ns := by
  rw [ofNodes_eq, flatMap_nodes_filter, List.flatMap_map]
  have hranks : l.titles.zipIdx.flatMap (fun p => (ofRank l ns p).nodes) =
      (List.range l.titles.length).flatMap fun r => ns.filter (l.rank ·.category = r) := by
    rw [List.range_eq_range', ← List.zipIdx_map_snd, List.flatMap_map]
    rfl
  rw [hranks, flatMap_filter_rank _ fun n _ => l.rank_lt n.category]
  cases l with
  | braces => rfl
  | indentation =>
    refine List.mergeSort_of_pairwise (List.pairwise_of_forall fun _ _ => ?_)
    rfl

theorem ne_nil_of_mem_ofNodes {l : Language} {ns : List Node} {s : Section}
    (h : s ∈ ofNodes l ns) : s.nodes ≠ [] := by
  rw [ofNodes_eq, List.mem_filter] at h
  simpa using h.2

/-- A node stands under the title of its rank. -/
theorem title_of_mem_ofNodes {l : Language} {ns : List Node} {s : Section} {n : Node}
    (h : s ∈ ofNodes l ns) (hn : n ∈ s.nodes) : l.titles[l.rank n.category]? = some s.title? := by
  rw [ofNodes_eq, List.mem_filter, List.mem_map] at h
  obtain ⟨⟨p, hp, rfl⟩, -⟩ := h
  have hrank : l.rank n.category = p.2 := by simpa using (List.mem_filter.1 hn).2
  rw [hrank]
  exact List.mem_zipIdx_iff_getElem?.1 hp

theorem titles_ofNodes (l : Language) (ns : List Node) :
    ((ofNodes l ns).map title?).Sublist l.titles := by
  rw [ofNodes_eq]
  have hsub : (((l.titles.zipIdx.map (ofRank l ns)).filter fun s => !s.nodes.isEmpty).map
      title?).Sublist ((l.titles.zipIdx.map (ofRank l ns)).map title?) :=
    List.filter_sublist.map title?
  have htitles : l.titles.zipIdx.map (title? ∘ ofRank l ns) = l.titles :=
    List.zipIdx_map_fst 0 l.titles
  rwa [List.map_map, htitles] at hsub

theorem ofNodes_eq_nil_iff (l : Language) (ns : List Node) : ofNodes l ns = [] ↔ ns = [] := by
  have hperm := l.arrange_perm ns
  rw [← flatMap_nodes_ofNodes] at hperm
  constructor
  · intro h
    rw [h] at hperm
    exact hperm.symm.eq_nil
  · rintro rfl
    refine List.eq_nil_iff_forall_not_mem.2 fun s hs => ?_
    exact ne_nil_of_mem_ofNodes hs (List.flatMap_eq_nil_iff.1 hperm.eq_nil s hs)

end Section

/-! ## Boxes of nodes -/

theorem Text.splitFrom_ne_nil (current cs : Chars) : splitFrom current cs ≠ [] := by
  induction cs generalizing current with
  | nil => simp [splitFrom]
  | cons c cs ih =>
    rw [splitFrom]
    split
    · simp
    · exact ih _

namespace PlacedBox

/-- A box is as wide as its longest line with the padding. -/
theorem widthOf_eq {lines : List Chars} (h : lines ≠ []) :
    (∀ t ∈ lines, t.length + padding ≤ widthOf lines) ∧
      ∃ t ∈ lines, widthOf lines = t.length + padding := by
  obtain ⟨m, hm⟩ : ∃ m, (lines.map List.length).max? = some m :=
    Option.ne_none_iff_exists'.1 (by simpa using h)
  have hwidth : widthOf lines = m + padding := by
    rw [widthOf, List.foldl_max, hm, Option.getD_some, Nat.zero_max]
  obtain ⟨hmem, hle⟩ := List.max?_eq_some_iff.1 hm
  rw [hwidth]
  constructor
  · intro t ht
    have := hle t.length (List.mem_map_of_mem ht)
    omega
  · obtain ⟨t, ht, rfl⟩ := List.mem_map.1 hmem
    exact ⟨t, ht, rfl⟩

/-- The box is that of the node: its lines, its place and its width. -/
structure Shows (settings : Settings) (n : Node) (b : PlacedBox) : Prop where
  lines : b.lines = n.textLines
  depth : b.depth = n.depth
  category : b.category = n.category
  line : b.line = n.line
  offset : b.offset = n.depth * settings.indentUnit
  /-- Each line fits between the borders and the blanks beside them. -/
  fits : ∀ t ∈ n.textLines, t.length + padding ≤ b.width
  /-- The longest line leaves no more room. -/
  tight : ∃ t ∈ n.textLines, b.width = t.length + padding

theorem ofNode_shows (settings : Settings) (n : Node) : Shows settings n (ofNode settings n) :=
  have hwidth := widthOf_eq (Text.splitFrom_ne_nil [] n.text)
  ⟨rfl, rfl, rfl, rfl, rfl, hwidth.1, hwidth.2⟩

end PlacedBox

/-! ## Canvas -/

namespace Canvas

/-- A section of the canvas holds one box for each node of its section, and no row is empty. -/
theorem exists_of_mem_sections {settings : Settings} {ss : List Section} {laid : CanvasSection}
    (h : laid ∈ (ofSections settings ss).sections) :
    ∃ s ∈ ss, laid.title? = s.title? ∧
      laid.rows.flatMap Row.boxes = s.nodes.map (PlacedBox.ofNode settings) ∧
      ∀ r ∈ laid.rows, r.boxes ≠ [] := by
  obtain ⟨s, hs, rfl⟩ := List.mem_map.1 h
  have hpacked := Row.pack_packed settings.lineWidth (s.nodes.map (PlacedBox.ofNode settings))
  exact ⟨s, hs, rfl, hpacked.boxes_eq, hpacked.ne_nil⟩

theorem boxes_ofSections (settings : Settings) (ss : List Section) :
    (ofSections settings ss).boxes =
      (ss.flatMap Section.nodes).map (PlacedBox.ofNode settings) := by
  rw [boxes, ofSections, List.flatMap_map, List.map_flatMap]
  exact List.flatMap_congr fun s _ => (Row.pack_packed _ _).boxes_eq

/-- Neither a section nor a row is empty, and each box stands under the title of its category. -/
theorem filled_of_mem_sections {l : Language} {settings : Settings} {ns : List Node}
    {laid : CanvasSection} (h : laid ∈ (ofNodes l settings ns).sections) :
    laid.rows ≠ [] ∧ ∀ r ∈ laid.rows, r.boxes ≠ [] ∧
      ∀ b ∈ r.boxes, l.titles[l.rank b.category]? = some laid.title? := by
  obtain ⟨s, hs, htitle, hrows, hne⟩ := exists_of_mem_sections h
  have hnodes := Section.ne_nil_of_mem_ofNodes hs
  refine ⟨?_, fun r hr => ⟨hne r hr, fun b hb => ?_⟩⟩
  · intro hnil
    rw [hnil] at hrows
    exact hnodes (List.map_eq_nil_iff.1 hrows.symm)
  · have hmem : b ∈ s.nodes.map (PlacedBox.ofNode settings) :=
      hrows ▸ List.mem_flatMap.2 ⟨r, hr, hb⟩
    obtain ⟨n, hn, rfl⟩ := List.mem_map.1 hmem
    rw [htitle]
    exact Section.title_of_mem_ofNodes hs hn

theorem titles_ofNodes (l : Language) (settings : Settings) (ns : List Node) :
    ((ofNodes l settings ns).sections.map CanvasSection.title?).Sublist l.titles := by
  have hsections : (ofNodes l settings ns).sections.map CanvasSection.title? =
      (Section.ofNodes l ns).map Section.title? := List.map_map
  rw [hsections]
  exact Section.titles_ofNodes l ns

end Canvas

/-- Each node of a source is one box of its chart, and there are no others: the boxes are those of
the nodes, in order of the sections and inside a section in order of the source. No section and no
row is empty, each box stands under the title of its category, the titles come in their order and
once each, and a chart without sections is one without nodes. -/
theorem canvas_shows_each_node (l : Language) (settings : Settings) (source : Chars) :
    let nodes := (l.flow source).nodes
    let canvas := Chart.canvas l settings source
    List.Forall₂ (PlacedBox.Shows settings) (l.arrange nodes) canvas.boxes ∧
      (l.arrange nodes).Perm nodes ∧
      (∀ s ∈ canvas.sections, s.rows ≠ [] ∧ ∀ r ∈ s.rows, r.boxes ≠ [] ∧
        ∀ b ∈ r.boxes, l.titles[l.rank b.category]? = some s.title?) ∧
      (canvas.sections.map CanvasSection.title?).Sublist l.titles ∧
      (canvas.sections.map CanvasSection.title?).Nodup ∧
      (canvas.isEmpty = true ↔ nodes = []) := by
  intro nodes canvas
  have hboxes : canvas.boxes = (l.arrange nodes).map (PlacedBox.ofNode settings) := by
    rw [← Section.flatMap_nodes_ofNodes]
    exact Canvas.boxes_ofSections settings (Section.ofNodes l nodes)
  have htitles : (canvas.sections.map CanvasSection.title?).Sublist l.titles :=
    Canvas.titles_ofNodes l settings nodes
  refine ⟨?_, l.arrange_perm nodes, ?_, htitles, ?_, ?_⟩
  · rw [hboxes, List.forall₂_map_right_iff, List.forall₂_same]
    exact fun n _ => PlacedBox.ofNode_shows settings n
  · exact fun _ => Canvas.filled_of_mem_sections
  · refine htitles.nodup ?_
    cases l <;> decide
  · rw [Canvas.isEmpty, List.isEmpty_iff, ← Section.ofNodes_eq_nil_iff l nodes]
    exact List.map_eq_nil_iff

end NestChart

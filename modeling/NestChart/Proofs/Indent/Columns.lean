import Mathlib.Data.List.Dedup
import NestChart.Proofs.Indent.WellFormed
import NestChart.Proofs.Indent.Lines

/-!
# NestChart.Proofs.Indent.Columns

The levels of an indentation language from the columns alone. Of the lines that begin a logical line
only the columns count, and of those columns only the suffix minima: `Nests` says that the open
levels are the positive ones among them, each once. `Nests.push_of_begins` is the step of one line,
`run_atLine` the run.
-/

namespace NestChart

/-- What a flow holds for the line of a number. -/
def Flow.atLine (f : Flow) (number : Nat) : Flow :=
  ⟨f.nodes.filter (·.line = number), f.anomalies.filter (·.line = number)⟩

theorem Flow.atLine_append (f g : Flow) (number : Nat) :
    (f ++ g).atLine number = f.atLine number ++ g.atLine number := by
  ext <;> simp [atLine]

namespace Indent

/-- The column at which a line begins. -/
def columnOf (l : Line) : Nat := column l.content

/-! ## Suffix minima -/

/-- The least column from each place on. -/
def suffixMinima : List Nat → List Nat
  | [] => []
  | c :: cs => cs.foldl min c :: suffixMinima cs

theorem suffixMinima_concat (cs : List Nat) (c : Nat) :
    suffixMinima (cs ++ [c]) = (suffixMinima cs).map (min · c) ++ [c] := by
  induction cs with
  | nil => rfl
  | cons d cs ih =>
    rw [List.cons_append, suffixMinima, List.foldl_append, ih]
    rfl

/-- A new column is a minimum, and of those there were it leaves the ones that it does not pass. -/
theorem mem_suffixMinima_concat {cs : List Nat} {c v : Nat} :
    v ∈ suffixMinima (cs ++ [c]) ↔ v = c ∨ v ∈ suffixMinima cs ∧ v ≤ c := by
  rw [suffixMinima_concat, List.mem_append, List.mem_singleton, List.mem_map]
  constructor
  · rintro (⟨u, hu, rfl⟩ | rfl)
    · rcases Nat.le_total u c with h | h
      · rw [Nat.min_eq_left h]
        exact .inr ⟨hu, h⟩
      · exact .inl (Nat.min_eq_right h)
    · exact .inl rfl
  · rintro (rfl | ⟨hv, hle⟩)
    · exact .inr rfl
    · exact .inl ⟨v, hv, Nat.min_eq_left hle⟩

/-- How many levels columns leave open: the distinct positive columns among their suffix minima. -/
def levelCount (cs : List Nat) : Nat := ((suffixMinima cs).filter (0 < ·)).dedup.length

/-- After columns `cs` the column `c` goes back, but to no place where a level is open. -/
def IsStray (cs : List Nat) (c : Nat) : Prop :=
  0 < c ∧ (∃ last, cs.getLast? = some last ∧ c < last) ∧ c ∉ suffixMinima cs

theorem isStray_iff {cs : List Nat} {c : Nat} :
    IsStray cs c ↔ (0 < c ∧ c ∉ suffixMinima cs) ∧ c < cs.getLast?.getD 0 := by
  cases h : cs.getLast? with
  | none => simp [IsStray, h]
  | some last => simp [IsStray, h, and_comm, and_left_comm]

instance (cs : List Nat) (c : Nat) : Decidable (IsStray cs c) := decidable_of_iff _ isStray_iff.symm

/-! ## Levels -/

/-- Among descending levels those that lie beyond a column come first. -/
theorem dropWhile_eq_filter {levels : List Nat} (h : levels.Pairwise (· > ·)) (c : Nat) :
    levels.dropWhile (c < ·) = levels.filter (· ≤ c) := by
  induction levels with
  | nil => rfl
  | cons v levels ih =>
    obtain ⟨hv, h⟩ := List.pairwise_cons.1 h
    by_cases hc : c < v
    · rw [List.dropWhile_cons_of_pos (by simpa using hc), ih h,
        List.filter_cons_of_neg (by simpa using hc)]
    · have hall : ∀ u ∈ v :: levels, u ≤ c := by
        intro u hu
        rcases List.mem_cons.1 hu with rfl | hu
        · omega
        · have := hv u hu
          omega
      rw [List.dropWhile_cons_of_neg (by simpa using hc),
        List.filter_eq_self.2 (by simpa using hall)]

theorem headD_le {levels : List Nat} {c : Nat} (h : ∀ v ∈ levels, v ≤ c) : levels.headD 0 ≤ c := by
  cases levels with
  | nil => exact Nat.zero_le c
  | cons v levels => exact h v (by simp)

/-- A level is missing at a column that all levels lie before or at, and none at. -/
theorem headD_lt_iff {levels : List Nat} {c : Nat} (h : levels.Pairwise (· > ·))
    (hle : ∀ v ∈ levels, v ≤ c) : levels.headD 0 < c ↔ 0 < c ∧ c ∉ levels := by
  cases levels with
  | nil => simp
  | cons v levels =>
    have hv := hle v (by simp)
    have hnot : c ∈ levels → c < v := (List.pairwise_cons.1 h).1 c
    simp only [List.headD_cons, List.mem_cons, not_or]
    constructor
    · intro hlt
      refine ⟨by omega, by omega, ?_⟩
      intro hc
      have := hnot hc
      omega
    · rintro ⟨-, hne, -⟩
      omega

theorem length_dropWhile_lt_iff (levels : List Nat) (c : Nat) :
    (levels.dropWhile (c < ·)).length < levels.length ↔ c < levels.headD 0 := by
  cases levels with
  | nil => simp
  | cons v levels =>
    by_cases hc : c < v
    · have := (List.dropWhile_sublist (c < ·) (l := levels)).length_le
      rw [List.dropWhile_cons_of_pos (by simpa using hc)]
      simp only [List.length_cons, List.headD_cons, hc, iff_true]
      omega
    · rw [List.dropWhile_cons_of_neg (by simpa using hc)]
      simp [hc]

/-- The levels that are open after lines of code at columns `cs`. -/
structure Nests (cs levels : List Nat) : Prop where
  descending : levels.Pairwise (· > ·)
  mem_iff : ∀ v, v ∈ levels ↔ 0 < v ∧ v ∈ suffixMinima cs
  top : levels.headD 0 = cs.getLast?.getD 0

namespace Nests

variable {cs : List Nat} {s : State}

theorem nil : Nests [] [] := ⟨.nil, by simp [suffixMinima], rfl⟩

/-- No level is counted twice or left out. -/
theorem length_eq {levels : List Nat} (h : Nests cs levels) : levels.length = levelCount cs := by
  have hnodup : levels.Nodup := h.descending.imp fun hgt => Nat.ne_of_gt hgt
  refine ((List.perm_ext_iff_of_nodup hnodup (List.nodup_dedup _)).2 ?_).length_eq
  intro v
  rw [h.mem_iff, List.mem_dedup, List.mem_filter, decide_eq_true_eq, and_comm]

/-- What is left of the levels when a line goes to column `c`. -/
theorem kept {levels : List Nat} (h : Nests cs levels) (c : Nat) :
    (levels.dropWhile (c < ·)).Pairwise (· > ·) ∧
      ∀ v, v ∈ levels.dropWhile (c < ·) ↔ (0 < v ∧ v ∈ suffixMinima cs) ∧ v ≤ c := by
  rw [dropWhile_eq_filter h.descending]
  refine ⟨h.descending.filter _, ?_⟩
  intro v
  rw [List.mem_filter, h.mem_iff, decide_eq_true_eq]

theorem headD_kept_lt_iff {levels : List Nat} (h : Nests cs levels) (c : Nat) :
    (levels.dropWhile (c < ·)).headD 0 < c ↔ 0 < c ∧ c ∉ suffixMinima cs := by
  obtain ⟨hdesc, hmem⟩ := h.kept c
  rw [headD_lt_iff hdesc fun v hv => ((hmem v).1 hv).2, hmem]
  grind

/-- A line of code at a column leaves the levels of the columns with its own. -/
theorem align (h : Nests cs s.levels) (c line : Nat) :
    Nests (cs ++ [c]) (s.align c line).1.levels := by
  obtain ⟨hdesc, hmem⟩ := h.kept c
  have hlt := h.headD_kept_lt_iff c
  simp only [State.align]
  split
  · rename_i hc
    refine ⟨List.pairwise_cons.2 ⟨?_, hdesc⟩, ?_, by simp⟩
    · intro v hv
      have hv := (hmem v).1 hv
      have : v ≠ c := by
        rintro rfl
        exact (hlt.1 hc).2 hv.1.2
      omega
    · intro v
      rw [List.mem_cons, hmem, mem_suffixMinima_concat]
      have := (hlt.1 hc).1
      grind
  · rename_i hc
    -- Column 0 closes every level, and at any other column a level is open already.
    have hopen : c = 0 ∨ c ∈ suffixMinima cs := by grind
    refine ⟨hdesc, ?_, ?_⟩
    · intro v
      rw [hmem, mem_suffixMinima_concat]
      grind
    · have hle := headD_le fun v hv => ((hmem v).1 hv).2
      show (s.levels.dropWhile (c < ·)).headD 0 = _
      rw [List.getLast?_concat, Option.getD_some]
      omega

theorem align_anomalies (h : Nests cs s.levels) (c line : Nat) :
    (s.align c line).2 = if IsStray cs c then [⟨line, .inconsistentDedent⟩] else [] := by
  have hlt := h.headD_kept_lt_iff c
  have hlen := length_dropWhile_lt_iff s.levels c
  rw [h.top] at hlen
  simp only [State.align]
  split
  · rename_i hc
    refine if_congr ?_ rfl rfl
    rw [hlen, isStray_iff, and_iff_right (hlt.1 hc)]
  · rename_i hc
    refine (if_neg ?_).symm
    rw [isStray_iff]
    exact fun hs => hc (hlt.2 hs.1)

end Nests

/-! ## Lines that begin a logical line -/

namespace State

/-- The line is code outside strings and logical lines that were open before. -/
def begins (s : State) (l : Line) : Bool :=
  s.mode = .code && isShown l && !isComment l.trimmed

theorem push_of_begins {s : State} {l : Line} (h : s.begins l = true) :
    s.push l = s.pushCode l := by
  simp only [begins, isShown, Bool.and_eq_true, decide_eq_true_eq, Bool.not_eq_true'] at h
  obtain ⟨⟨hs, hne, hi⟩, hc⟩ := h
  simp [push, hs, hne, hi, hc]

theorem endLine_levels (s : State) (text : Chars) (balance : Int) (depth : Nat) :
    (s.endLine text balance depth).levels = s.levels := by
  unfold endLine
  split <;> rfl

theorem pushCode_levels (s : State) (l : Line) :
    (s.pushCode l).state.levels = (s.align (columnOf l) l.number).1.levels := by
  simp only [pushCode, columnOf]
  split
  · rfl
  · exact endLine_levels _ _ _ _

/-- Every other line leaves the levels alone and reports nothing. -/
theorem push_of_not_begins {s : State} {l : Line} (h : s.begins l = false) :
    (s.push l).state.levels = s.levels ∧ (s.push l).flow.anomalies = [] := by
  simp only [push]
  split
  · exact ⟨rfl, rfl⟩
  rename_i hne
  split
  · refine ⟨?_, rfl⟩
    simp only [Step.emit]
    split <;> rfl
  · exact ⟨endLine_levels _ _ _ _, rfl⟩
  · rename_i hs
    split
    · exact ⟨rfl, rfl⟩
    rename_i hi
    split
    · exact ⟨rfl, rfl⟩
    rename_i hc
    simp [begins, isShown, hs, hne, hi, hc] at h

end State

namespace Nests

variable {cs : List Nat} {s : State} {l : Line}

theorem push_of_begins (h : Nests cs s.levels) (hb : s.begins l = true) :
    Nests (cs ++ [columnOf l]) (s.push l).state.levels := by
  rw [State.push_of_begins hb, State.pushCode_levels]
  exact h.align _ _

theorem push_of_not_begins (h : Nests cs s.levels) (hb : s.begins l = false) :
    Nests cs (s.push l).state.levels := by
  rw [(State.push_of_not_begins hb).1]
  exact h

end Nests

/-- The lines that begin a logical line, from a state on. -/
def logicalLines (s : State) : List Line → List Line
  | [] => []
  | l :: ls =>
    if s.begins l then l :: logicalLines (s.push l).state ls
    else logicalLines (s.push l).state ls

theorem logicalLines_sublist (s : State) (ls : List Line) :
    (logicalLines s ls).Sublist ls := by
  induction ls generalizing s with
  | nil => exact .slnil
  | cons l ls ih =>
    rw [logicalLines]
    split
    · exact (ih _).cons_cons l
    · exact (ih _).cons l

/-! ## Runs -/

/-- A step holds something for its own line only. -/
theorem push_atLine_of_ne (s : State) {l : Line} {number : Nat} (h : l.number ≠ number) :
    (s.push l).flow.atLine number = .empty := by
  have hx := State.push_shows s l
  ext1
  · refine List.filter_eq_nil_iff.2 ?_
    intro n hn
    obtain ⟨depth, category, rfl⟩ := hx.node n hn
    rw [decide_eq_true_eq]
    exact h
  · refine List.filter_eq_nil_iff.2 ?_
    intro a ha
    rw [hx.anomaly a ha, decide_eq_true_eq]
    exact h

/-- For a line behind the first one only the rest of the run counts. -/
theorem run_cons_atLine_of_ne (s : State) {l : Line} {number : Nat} (h : l.number ≠ number)
    (ls : List Line) : (builder.run s (l :: ls)).flow.atLine number =
      (builder.run (s.push l).state ls).flow.atLine number := by
  have hl : (builder.push s l).flow.atLine number = .empty := push_atLine_of_ne s h
  rw [Builder.run_cons, Step.andThen, Flow.atLine_append, hl, Flow.empty_append]
  rfl

theorem run_atLine_of_ne (s : State) {ls : List Line} {number : Nat}
    (h : ∀ l ∈ ls, l.number ≠ number) : (builder.run s ls).flow.atLine number = .empty := by
  induction ls generalizing s with
  | nil => rfl
  | cons l ls ih =>
    rw [run_cons_atLine_of_ne s (h l (by simp))]
    exact ih _ fun m hm => h m (by simp [hm])

/-- For the first line only its own step counts. -/
theorem run_cons_atLine (s : State) {l : Line} {ls : List Line}
    (h : ∀ m ∈ ls, l.number < m.number) :
    (builder.run s (l :: ls)).flow.atLine l.number = (s.push l).flow.atLine l.number := by
  have hrest : (builder.run (builder.push s l).state ls).flow.atLine l.number = .empty :=
    run_atLine_of_ne _ fun m hm => Nat.ne_of_gt (h m hm)
  rw [Builder.run_cons, Step.andThen, Flow.atLine_append, hrest, Flow.append_empty]
  rfl

/-- What a line that begins a logical line adds after such lines at columns `cs`. -/
theorem push_atLine {cs : List Nat} {s : State} {l : Line} (hs : Nests cs s.levels)
    (hb : s.begins l = true) :
    ∃ category, (s.push l).flow.atLine l.number =
      ⟨[State.node l (levelCount (cs ++ [columnOf l])) category],
        if IsStray cs (columnOf l) then [⟨l.number, .inconsistentDedent⟩] else []⟩ := by
  refine ⟨classify l.trimmed, ?_⟩
  rw [State.push_of_begins hb, ← hs.align_anomalies, ← (hs.align (columnOf l) l.number).length_eq]
  ext1
  · simp [Flow.atLine, State.pushCode, State.node, State.depth, columnOf]
  · refine List.filter_eq_self.2 ?_
    intro a ha
    rw [State.align_anomaly ha]
    simp

/-- The node and the anomaly of a line that begins a logical line, by the columns of such lines. -/
theorem run_atLine {cs : List Nat} {s : State} {ls earlier later : List Line} {l : Line}
    (hs : Nests cs s.levels) (hls : ls.Pairwise fun l m => l.number < m.number)
    (h : logicalLines s ls = earlier ++ l :: later) :
    ∃ category, (builder.run s ls).flow.atLine l.number =
      ⟨[State.node l (levelCount (cs ++ earlier.map columnOf ++ [columnOf l])) category],
        if IsStray (cs ++ earlier.map columnOf) (columnOf l) then
          [⟨l.number, .inconsistentDedent⟩] else []⟩ := by
  induction ls generalizing s cs earlier with
  | nil => simp [logicalLines] at h
  | cons m ls ih =>
    obtain ⟨hm, hls⟩ := List.pairwise_cons.1 hls
    have hlater {earlier' : List Line}
        (h : logicalLines (s.push m).state ls = earlier' ++ l :: later) :
        (builder.run s (m :: ls)).flow.atLine l.number =
          (builder.run (s.push m).state ls).flow.atLine l.number := by
      have hl : l ∈ ls := (logicalLines_sublist (s.push m).state ls).mem (by simp [h])
      exact run_cons_atLine_of_ne s (Nat.ne_of_lt (hm l hl)) ls
    rw [logicalLines] at h
    split at h
    · rename_i hb
      cases earlier with
      | nil =>
        obtain ⟨rfl, -⟩ := List.cons.inj h
        rw [run_cons_atLine s hm, List.map_nil, List.append_nil]
        exact push_atLine hs hb
      | cons e earlier =>
        obtain ⟨rfl, htail⟩ := List.cons.inj h
        rw [hlater htail, List.map_cons, List.append_cons cs]
        exact ih (hs.push_of_begins hb) hls htail
    · rename_i hb
      rw [hlater h]
      exact ih (hs.push_of_not_begins (by simpa using hb)) hls h

/-- Nothing is reported but lines that begin a logical line. -/
theorem mem_run_anomalies {s : State} {ls : List Line} {a : Anomaly}
    (h : a ∈ (builder.run s ls).flow.anomalies) :
    ∃ l ∈ logicalLines s ls, a = ⟨l.number, .inconsistentDedent⟩ := by
  induction ls generalizing s with
  | nil => cases h
  | cons l ls ih =>
    rw [Builder.run_cons, Step.andThen, Flow.anomalies_append, List.mem_append] at h
    rw [logicalLines]
    cases hb : s.begins l with
    | true =>
      rcases h with h | h
      · exact ⟨l, by simp, (State.push_shows s l).anomaly a h⟩
      · obtain ⟨m, hm, rfl⟩ := ih h
        exact ⟨m, by simp [show m ∈ logicalLines (s.push l).state ls from hm], rfl⟩
    | false =>
      rcases h with h | h
      · rw [show builder.push s l = s.push l from rfl, (State.push_of_not_begins hb).2] at h
        cases h
      · exact ih h

/-! ## Sources -/

theorem State.finish_anomaly {s : State} {a : Anomaly} (h : a ∈ s.finish.anomalies) :
    a.kind = .unterminatedComment := by
  unfold finish at h
  split at h
  · rw [List.mem_singleton.1 h]
  · cases h

theorem flow_eq_run (source : Chars) :
    builder.flow source = (builder.run .start (Line.ofSource source)).flow ++
      (builder.run .start (Line.ofSource source)).state.finish := rfl

theorem nodes_flow (source : Chars) :
    (builder.flow source).nodes = (builder.run .start (Line.ofSource source)).flow.nodes := by
  rw [flow_eq_run, Flow.nodes_append, State.finish_nodes, List.append_nil]

/-- What the end of a source reports is no matter of indentation. -/
theorem count_flow_anomalies (source : Chars) (number : Nat) :
    (builder.flow source).anomalies.count ⟨number, .inconsistentDedent⟩ =
      ((builder.run .start (Line.ofSource source)).flow.atLine number).anomalies.count
        ⟨number, .inconsistentDedent⟩ := by
  have hfinish : (builder.run .start (Line.ofSource source)).state.finish.anomalies.count
      ⟨number, .inconsistentDedent⟩ = 0 :=
    List.count_eq_zero.2 fun ha => by cases State.finish_anomaly ha
  rw [flow_eq_run, Flow.anomalies_append, List.count_append, hfinish, Nat.add_zero, Flow.atLine,
    List.count_filter (by simp)]

theorem exists_of_mem_flow_anomalies {source : Chars} {a : Anomaly}
    (h : a ∈ (builder.flow source).anomalies) (hk : a.kind = .inconsistentDedent) :
    ∃ l ∈ logicalLines .start (Line.ofSource source), a.line = l.number := by
  rw [flow_eq_run, Flow.anomalies_append, List.mem_append] at h
  rcases h with h | h
  · obtain ⟨l, hl, rfl⟩ := mem_run_anomalies h
    exact ⟨l, hl, rfl⟩
  · rw [State.finish_anomaly h] at hk
    cases hk

/-- The node of a line that begins a logical line has as many levels around it as there are distinct
positive columns among the suffix minima of the columns so far; the line is reported exactly when it
goes back to a positive column that was none of them, and no other line is. -/
theorem levels_eq_suffixMinima (source : Chars) :
    let flow := builder.flow source
    let lines := logicalLines .start (Line.ofSource source)
    (∀ earlier l later, lines = earlier ++ l :: later →
      let columns := earlier.map columnOf
      (∃ category, flow.nodes.filter (·.line = l.number) =
          [State.node l (levelCount (columns ++ [columnOf l])) category]) ∧
        flow.anomalies.count ⟨l.number, .inconsistentDedent⟩ =
          if IsStray columns (columnOf l) then 1 else 0) ∧
      ∀ a ∈ flow.anomalies, a.kind = .inconsistentDedent → ∃ l ∈ lines, a.line = l.number := by
  intro flow lines
  refine ⟨?_, fun a => exists_of_mem_flow_anomalies⟩
  intro earlier l later h columns
  have hnumbers : (Line.ofSource source).Pairwise fun l m => l.number < m.number :=
    Line.pairwise_number_locate _ _ _
  obtain ⟨category, hline⟩ := run_atLine .nil hnumbers h
  rw [List.nil_append] at hline
  constructor
  · refine ⟨category, ?_⟩
    rw [nodes_flow]
    exact congrArg Flow.nodes hline
  · rw [count_flow_anomalies, hline]
    show List.count _ (if IsStray columns (columnOf l) then _ else _) = _
    split <;> simp

/-- A continued line, a comment and then a return to column 4, at which no level is open. -/
theorem levels_eq_suffixMinima_stray :
    let source := "if a:\n        f(1,\n  2)\n# note\n    c()\n".toList
    let flow := builder.flow source
    let back : Line := ⟨5, 31, "    c()\n".toList⟩
    logicalLines .start (Line.ofSource source) =
        [⟨1, 0, "if a:\n".toList⟩, ⟨2, 6, "        f(1,\n".toList⟩] ++ [back] ∧
      (∃ category, flow.nodes.filter (·.line = 5) = [State.node back 1 category]) ∧
      flow.anomalies.count ⟨5, .inconsistentDedent⟩ = 1 := by
  intro source flow back
  have h : logicalLines .start (Line.ofSource source) =
      [⟨1, 0, "if a:\n".toList⟩, ⟨2, 6, "        f(1,\n".toList⟩] ++ [back] := by decide
  obtain ⟨hnodes, hcount⟩ := (levels_eq_suffixMinima source).1 _ back [] h
  exact ⟨h, hnodes, hcount.trans (by decide)⟩

end Indent
end NestChart

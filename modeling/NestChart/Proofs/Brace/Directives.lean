import NestChart.Proofs.Brace.Spacing
import NestChart.Proofs.Insertion

/-!
# NestChart.Proofs.Brace.Directives

Directives stand outside the structure of a source. Whatever a directive holds, it is shown whole
where it stands and leaves every field of the state (`State.push_directive`), heads that wait and
`if`s that may be answered among them. So directives can be put in anywhere but inside a comment.
-/

namespace NestChart.Brace

open Text

namespace State

variable {s : State} {l : Line}

theorem push_directive (hs : s.comment? = none) (hd : isDirective l.trimmed = true) :
    s.push l = .emit s
      (node ⟨l.trimmed, l.trimmedSpan.start⟩ s.effectiveDepth .directive l.number) := by
  rw [push_eq_run hs, Parts.ofText_directive hd]
  rfl

theorem passes_directive (hs : s.comment? = none) (hd : isDirective l.trimmed = true) :
    builder.Passes s l := by
  have hpush : builder.push s l = _ := push_directive hs hd
  refine ⟨?_, ?_, ?_⟩
  · rw [hpush]
    rfl
  · rw [hpush]
    rfl
  · intro n hn
    rw [hpush] at hn
    obtain rfl := List.mem_singleton.1 hn
    rfl

theorem push_moves {t : State} {source : Chars} {p k : Nat} {m : Line}
    (hst : s.Alike (Line.makeRoom p k · = ·) t) (hm : Line.Moves source p k l m) :
    (builder.push s l).Alike (State.Alike (Line.makeRoom p k · = ·)) (Line.makeRoom p k · = ·)
      (builder.push t m) :=
  stepsAlike_iff.1 (push_alike hst (congrArg trim hm.content_eq) hm.number_eq)

end State

/-- Directives put in between two lines, outside comments, are shown one by one, each whole on its
line, and all other nodes and all anomalies stay as they were, those behind them on later lines. -/
theorem flow_insert_directives {source other : Chars} {p : Nat} {inserted : List Chars}
    (h : Line.Inserts source other p inserted)
    (hopen : (builder.run builder.start ((Line.ofSource source).take p)).state.comment? = none)
    (hd : ∀ content ∈ inserted, isDirective (trim content) = true) :
    (builder.flow source).Alike (Line.makeRoom p inserted.length · = ·)
        ((builder.flow other).outside p inserted.length) ∧
      ((builder.flow other).inside p inserted.length).map (fun n => (n.line, n.text, n.category)) =
        (((Line.ofSource other).drop p).take inserted.length).map
          fun l => (l.number, l.trimmed, .directive) := by
  generalize hreached :
    (builder.run builder.start ((Line.ofSource source).take p)).state = s at hopen
  have hpasses : ∀ t l, State.Alike (Line.makeRoom p inserted.length · = ·) s t →
      l.content ∈ inserted → builder.Passes t l := by
    intro t l hst hl
    rw [hst.eq_of_none hopen]
    exact State.passes_directive hopen (hd _ hl)
  obtain ⟨hothers, t, ht, hinside⟩ := builder.flow_insert h (.refl_of_none rfl)
    (fun _ _ _ _ => State.push_moves) (fun _ _ => State.finish_alike) (hreached ▸ hpasses)
  rw [hreached] at ht
  refine ⟨hothers, ?_⟩
  rw [hinside, List.map_flatMap, List.map_eq_flatMap]
  refine List.flatMap_congr ?_
  intro l hl
  rw [ht.eq_of_none hopen]
  have hnode : builder.push s l = _ := State.push_directive hopen (hd _ (h.content_mem hl))
  rw [hnode]
  rfl

/-- Between the body of an `if` and its `else`; the directives hold braces, the start of a comment
and a terminator. -/
theorem flow_insert_directives_else :
    let source := "if (a)\n  b();\nelse\n  c();\n".toList
    let other := "if (a)\n  b();\n#define X \x7b /* ;\n  #endif \x7d\nelse\n  c();".toList
    let inserted := ["#define X \x7b /* ;".toList, "  #endif \x7d".toList]
    Line.Inserts source other 2 inserted ∧
      (builder.run builder.start ((Line.ofSource source).take 2)).state.comment? = none ∧
      (∀ content ∈ inserted, isDirective (trim content) = true) ∧
      (builder.flow source).Alike (Line.makeRoom 2 2 · = ·) ((builder.flow other).outside 2 2) ∧
      ((builder.flow other).inside 2 2).map (fun n => (n.line, n.text, n.category)) =
        [(3, "#define X \x7b /* ;".toList, .directive), (4, "#endif \x7d".toList, .directive)] := by
  intro source other inserted
  have h : Line.Inserts source other 2 inserted := by decide
  have hopen :
      (builder.run builder.start ((Line.ofSource source).take 2)).state.comment? = none := by
    decide +kernel
  have hd : ∀ content ∈ inserted, isDirective (trim content) = true := by decide
  obtain ⟨hothers, hnew⟩ := flow_insert_directives h hopen hd
  exact ⟨h, hopen, hd, hothers, hnew.trans (by decide)⟩

end NestChart.Brace

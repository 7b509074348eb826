import NestChart.Proofs.Brace.Shift
import NestChart.Proofs.Brace.WellFormed
import NestChart.Proofs.Indent.Shift
import NestChart.Proofs.Indent.WellFormed
import NestChart.Reading

/-!
# NestChart.Proofs.Reading

The flow of a source, whatever its language, keeps its promises (`flow_wellFormed`), and a source
that leaves nothing open has no say in what follows it (`flow_append_of_nothingOpen`).
-/

namespace NestChart.Language

open Text

/-- Every node comes from where its span says, and nodes and anomalies come in the order of their
lines. -/
theorem flow_wellFormed (l : Language) (source : Chars) :
    (l.flow source).WellFormed source := by
  cases l with
  | braces => exact Brace.builder_wellFormed source
  | indentation => exact Indent.builder_wellFormed source

/-- The lines of the source leave the state that there was before them. -/
def NothingOpen (l : Language) (source : Chars) : Prop :=
  match l with
  | .braces =>
    (Brace.builder.run Brace.builder.start (Line.ofSource source)).state = Brace.builder.start
  | .indentation =>
    (Indent.builder.run Indent.builder.start (Line.ofSource source)).state = Indent.builder.start

instance (l : Language) (source : Chars) : Decidable (l.NothingOpen source) :=
  match l with
  | .braces => inferInstanceAs (Decidable (_ = _))
  | .indentation => inferInstanceAs (Decidable (_ = _))

/-- A source behind one that ends a line and leaves nothing open has its own nodes and anomalies,
further down by the lines and bytes of the first. In an indentation language it must not name an
interpreter, which only the first line of a source can do. -/
theorem flow_append_of_nothingOpen (l : Language) {first rest : Chars} (hends : EndsLine first)
    (hopen : l.NothingOpen first)
    (hname : l = .indentation →
      first = [] ∨ ∀ line ∈ (Line.ofSource rest).head?, ¬ ['#', '!'] <+: line.trimmed) :
    l.flow (first ++ rest) = l.flow first ++
      (l.flow rest).shift (Line.ofSource first).length (byteLength first) := by
  cases l with
  | braces => exact Brace.flow_append hends hopen
  | indentation => exact Indent.flow_append hends hopen (hname rfl)

/-- A function and then a closing brace too many and a comment that never ends; a definition and
then a return to no level and a string that never ends. -/
theorem flow_append_of_nothingOpen_anomalies :
    let function := "int f(void) \x7b\n  return 0; /* x\n*/\n\x7d\n".toList
    let behind := "\x7d a();\n/* y".toList
    let definition := "def f():\n  x = (1,\n 2)\ny = ''''\n'''\n".toList
    let after := "if a:\n    b()\n  c()\nz = '''\nopen".toList
    (EndsLine function ∧ braces.NothingOpen function ∧
      braces.flow (function ++ behind) = braces.flow function ++
        (braces.flow behind).shift 4 (byteLength function) ∧
      (braces.flow behind).shift 4 (byteLength function) =
        ⟨[⟨"a();".toList, 0, .statement, 5, ⟨38, 42⟩⟩, ⟨"/* y".toList, 0, .comment, 6, ⟨43, 47⟩⟩],
          [⟨5, .unmatchedCloser⟩, ⟨6, .unterminatedComment⟩]⟩) ∧
    EndsLine definition ∧ indentation.NothingOpen definition ∧
      (∀ line ∈ (Line.ofSource after).head?, ¬ ['#', '!'] <+: line.trimmed) ∧
      indentation.flow (definition ++ after) = indentation.flow definition ++
        (indentation.flow after).shift 5 (byteLength definition) ∧
      (indentation.flow after).shift 5 (byteLength definition) =
        ⟨[⟨"if a:".toList, 0, .controlHeader, 6, ⟨36, 41⟩⟩,
            ⟨"b()".toList, 1, .statement, 7, ⟨46, 49⟩⟩, ⟨"c()".toList, 1, .statement, 8, ⟨52, 55⟩⟩,
            ⟨"z = '''".toList, 0, .statement, 9, ⟨56, 63⟩⟩,
            ⟨"open".toList, 0, .comment, 10, ⟨64, 68⟩⟩],
          [⟨8, .inconsistentDedent⟩, ⟨9, .unterminatedComment⟩]⟩ := by
  intro function behind definition after
  have hends : EndsLine function := by decide
  have hopen : braces.NothingOpen function := by decide +kernel
  have hends' : EndsLine definition := by decide
  have hopen' : indentation.NothingOpen definition := by decide
  have hname : ∀ line ∈ (Line.ofSource after).head?, ¬ ['#', '!'] <+: line.trimmed := by decide
  exact ⟨⟨hends, hopen, braces.flow_append_of_nothingOpen hends hopen (by simp), by decide +kernel⟩,
    hends', hopen', hname,
    indentation.flow_append_of_nothingOpen hends' hopen' fun _ => .inr hname, by decide +kernel⟩

end NestChart.Language

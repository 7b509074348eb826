import NestChart.Language
import NestChart.Node

/-!
# NestChart.Section

The sections of a chart. A brace language shows its nodes by kind, under titles; an indentation
language shows them as they come.
-/

namespace NestChart

/-- Nodes that are laid out together. -/
structure Section where
  title? : Option Chars
  nodes : List Node
  deriving Repr, DecidableEq

namespace Section

/-- The titles in order, each with the categories under it. Every category has one title. -/
def groups : List (Chars × List Category) :=
  [("Comments".toList, [.comment]),
    ("Preprocessor Directives".toList, [.directive]),
    ("Declarations".toList, [.declaration]),
    ("Function Signatures".toList, [.prototype]),
    ("Function Logic".toList, [.controlHeader, .statement])]

/-- The sections of a list of nodes, in the order of the titles and without empty ones; inside a
section the nodes keep their order. -/
def ofNodes (l : Language) (nodes : List Node) : List Section :=
  let sections :=
    if l.groupsSections then
      groups.map fun g => ⟨some g.1, nodes.filter fun n => g.2.contains n.category⟩
    else [⟨none, nodes⟩]
  sections.filter fun s => !s.nodes.isEmpty

end Section
end NestChart

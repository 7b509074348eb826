import NestChart.Text.Basic

/-!
# NestChart.Text.Markup

Text inside markup. The three characters that could begin a tag or an entity, or end a tag, are
written as entities; all others stand for themselves.
-/

namespace NestChart.Text.Markup

def escapeChar (c : Char) : Chars :=
  if c = '&' then "&amp;".toList
  else if c = '<' then "&lt;".toList
  else if c = '>' then "&gt;".toList
  else [c]

def escape (cs : Chars) : Chars := cs.flatMap escapeChar

end NestChart.Text.Markup

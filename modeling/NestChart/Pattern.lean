import NestChart.Text.Basic
import NestChart.Text.Word

/-!
# NestChart.Pattern

Regular patterns over characters. `Pattern.Matches` says which texts a pattern describes;
`Pattern.accepts` decides it by reading the text once, keeping the list of what may follow.
-/

namespace NestChart

/-- A set of characters. -/
inductive CharClass
  | word
  | blank
  | only (c : Char)
  | except (excluded : Chars)
  | either (a b : CharClass)
  deriving Repr, DecidableEq

/-- Whether the set holds a character. -/
def CharClass.has : CharClass → Char → Bool
  | word, c => isWord c
  | blank, c => isBlank c
  | only d, c => c == d
  | except excluded, c => !excluded.contains c
  | either a b, c => a.has c || b.has c

/-- A regular pattern. -/
inductive Pattern
  /-- The empty text. -/
  | empty
  /-- One character of a class. -/
  | one (k : CharClass)
  /-- A text of `p` and then one of `q`. -/
  | seq (p q : Pattern)
  /-- A text of `p` or of `q`. -/
  | alt (p q : Pattern)
  /-- Any number of texts of `p`. -/
  | star (p : Pattern)
  deriving Repr, DecidableEq

namespace Pattern

/-- The texts that a pattern describes. -/
inductive Matches : Pattern → Chars → Prop
  | empty : Matches empty []
  | one {k : CharClass} {c : Char} (h : k.has c = true) : Matches (one k) [c]
  | seq {p q : Pattern} {a b : Chars} (hp : Matches p a) (hq : Matches q b) :
      Matches (seq p q) (a ++ b)
  | left {p q : Pattern} {a : Chars} (h : Matches p a) : Matches (alt p q) a
  | right {p q : Pattern} {a : Chars} (h : Matches q a) : Matches (alt p q) a
  | stop {p : Pattern} : Matches (star p) []
  | again {p : Pattern} {a b : Chars} (hp : Matches p a) (hs : Matches (star p) b) :
      Matches (star p) (a ++ b)

/-! ## Shorthands -/

/-- At least one text of `p`. -/
def plus (p : Pattern) : Pattern := seq p (star p)

/-- A text of `p` or nothing. -/
def opt (p : Pattern) : Pattern := alt p empty

/-- A character on its own. -/
def lit (c : Char) : Pattern := one (.only c)

/-- A text of each pattern in turn. -/
def inOrder : List Pattern → Pattern
  | [] => empty
  | [p] => p
  | p :: ps => seq p (inOrder ps)

/-! ## Deciding -/

/-- Whether the pattern describes the empty text. -/
def nullable : Pattern → Bool
  | empty => true
  | one _ => false
  | seq p q => p.nullable && q.nullable
  | alt p q => p.nullable || q.nullable
  | star _ => true

/-- `seq` that drops an empty first part. -/
def andThen (p q : Pattern) : Pattern := if p = empty then q else seq p q

/-- What may follow the character `c` in a text of the pattern, one pattern for each way. -/
def rests (c : Char) : Pattern → List Pattern
  | empty => []
  | one k => if k.has c then [empty] else []
  | seq p q => (rests c p).map (andThen · q) ++ if p.nullable then rests c q else []
  | alt p q => rests c p ++ rests c q
  | star p => (rests c p).map (andThen · (star p))

/-- Reads one character from each pattern of a list. -/
def step (ps : List Pattern) (c : Char) : List Pattern := (ps.flatMap (rests c)).eraseDups

/-- Whether the pattern describes the whole text. -/
def accepts (p : Pattern) (cs : Chars) : Bool := (cs.foldl step [p]).any nullable

/-- Whether some part of the text is described by the pattern. -/
def occurs (p : Pattern) (cs : Chars) : Bool :=
  accepts (inOrder [star (one (.except [])), p, star (one (.except []))]) cs

end Pattern
end NestChart

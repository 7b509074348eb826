import NestChart.Text.Basic
import NestChart.Text.Cluster.Ranges

/-!
# NestChart.Text.Cluster

Clusters: what a reader takes for one character, such as a letter with its marks, a syllable built
of its parts, a flag made of two letters or a family of pictographs. `clusters` cuts a text into
them by the rules of Unicode's text segmentation, so that it is the concatenation of its clusters.
-/

namespace NestChart

/-- What a character does at the boundaries beside it. -/
inductive ClusterRole
  | carriageReturn
  | lineFeed
  /-- Stands alone. -/
  | control
  /-- Extends the character before it. -/
  | extend
  /-- The joiner of pictographs. -/
  | joiner
  /-- Stays with the character before it and takes a column. -/
  | spacing
  /-- Stays with the character behind it. -/
  | leadingSign
  /-- Half of a flag. -/
  | flag
  | leadingConsonant
  | vowel
  | trailingConsonant
  /-- A syllable that a trailing consonant can close. -/
  | openSyllable
  | closedSyllable
  | pictograph
  /-- A consonant that can be linked to another. -/
  | consonant
  | other
  deriving Repr, DecidableEq

namespace Cluster

/-- A control character. -/
def isControl (c : Char) : Bool := c.toNat < 0x20 || (0x7F ≤ c.toNat && c.toNat < 0xA0)

/-- Half of a flag. -/
def isFlag (c : Char) : Bool := 0x1F1E6 ≤ c.toNat && c.toNat ≤ 0x1F1FF

/-- What a part of a Korean syllable, or a whole one, does. -/
def syllableRole? (c : Char) : Option ClusterRole :=
  let n := c.toNat
  if (0x1100 ≤ n && n ≤ 0x115F) || (0xA960 ≤ n && n ≤ 0xA97C) then some .leadingConsonant
  else if (0x1160 ≤ n && n ≤ 0x11A7) || (0xD7B0 ≤ n && n ≤ 0xD7C6) || n == 0x16D63 ||
    (0x16D67 ≤ n && n ≤ 0x16D6A) then some .vowel
  else if (0x11A8 ≤ n && n ≤ 0x11FF) || (0xD7CB ≤ n && n ≤ 0xD7FB) then some .trailingConsonant
  else if 0xAC00 ≤ n && n ≤ 0xD7A3 then
    some (if (n - 0xAC00) % 28 = 0 then .openSyllable else .closedSyllable)
  else none

def roleOf (c : Char) : ClusterRole :=
  if c = '\r' then .carriageReturn
  else if c = '\n' then .lineFeed
  else if isControl c then .control
  else if c.toNat < 0x80 then .other
  else if c.toNat = 0x200D then .joiner
  else if isFlag c then .flag
  else if extendRanges.contains c then .extend
  else if formatRanges.contains c then .control
  else if spacingRanges.contains c then .spacing
  else if leadingSignRanges.contains c then .leadingSign
  else if pictographRanges.contains c then .pictograph
  else if consonantRanges.contains c then .consonant
  else (syllableRole? c).getD .other

def isLinker (c : Char) : Bool := linkers.contains c.toNat

/-- A character that may stand between a consonant and the next one that is linked to it. -/
def isBetweenConsonants (c : Char) : Bool :=
  c.toNat != 0x200C && (roleOf c == .extend || roleOf c == .joiner)

/-- The text, read backwards, ends in a consonant with a linker behind it. -/
def endsLinked (before : Chars) : Bool :=
  (before.takeWhile isBetweenConsonants).any isLinker &&
    (before.dropWhile isBetweenConsonants).head?.any (roleOf · == .consonant)

/-- The text, read backwards, ends in a pictograph and a joiner. -/
def endsJoined : Chars → Bool
  | [] => false
  | c :: before => roleOf c == .joiner &&
    (before.dropWhile (roleOf · == .extend)).head?.any (roleOf · == .pictograph)

/-- No boundary lies between a character and a cluster before it, given from its end backwards. -/
def joins (before : Chars) (c : Char) : Bool :=
  match before with
  | [] => true
  | b :: _ =>
    match roleOf b, roleOf c with
    | .carriageReturn, .lineFeed => true
    | .carriageReturn, _ | .lineFeed, _ | .control, _ => false
    | _, .carriageReturn | _, .lineFeed | _, .control => false
    | _, .extend | _, .joiner | _, .spacing => true
    | .leadingSign, _ => true
    | .leadingConsonant, .leadingConsonant | .leadingConsonant, .vowel
    | .leadingConsonant, .openSyllable | .leadingConsonant, .closedSyllable => true
    | .openSyllable, .vowel | .openSyllable, .trailingConsonant => true
    | .vowel, .vowel | .vowel, .trailingConsonant => true
    | .closedSyllable, .trailingConsonant | .trailingConsonant, .trailingConsonant => true
    | .joiner, .pictograph => endsJoined before
    | .flag, .flag => (before.takeWhile isFlag).length % 2 = 1
    | _, .consonant => endsLinked before
    | _, _ => false

/-- The clusters of a text that goes on from a cluster, given from its end backwards. -/
def clustersFrom (current : Chars) : Chars → List Chars
  | [] => if current.isEmpty then [] else [current.reverse]
  | c :: cs =>
    if joins current c then clustersFrom (c :: current) cs
    else current.reverse :: clustersFrom [c] cs

end Cluster

/-- The clusters of a text. -/
def clusters (text : Chars) : List Chars := Cluster.clustersFrom [] text

end NestChart

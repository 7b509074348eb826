import NestChart.Text.Basic

/-!
# NestChart.Path

Slash-separated paths: the parts that name something, the file name and its extension. Empty parts
and `.` name nothing; `..` names no file.
-/

namespace NestChart
namespace Path

/-- Cuts at every `c`; `current` holds the part read so far, last character first. -/
def splitAtFrom (c : Char) (current : Chars) : Chars → List Chars
  | [] => [current.reverse]
  | d :: cs =>
    if d = c then current.reverse :: splitAtFrom c [] cs else splitAtFrom c (d :: current) cs

/-- The parts of a path, without the empty ones and without `.`. -/
def parts (path : Chars) : List Chars :=
  (splitAtFrom '/' [] path).filter fun p => p ≠ [] && p ≠ ['.']

/-- The last part, unless the path ends in `..` or names nothing. -/
def fileName? (path : Chars) : Option Chars :=
  match (parts path).getLast? with
  | some name => if name = ['.', '.'] then none else some name
  | none => none

/-- What follows the last dot of the file name; a dot that opens the name does not count. -/
def extension? (path : Chars) : Option Chars :=
  match fileName? path with
  | none => none
  | some name =>
    let ending := (name.reverse.takeWhile (· ≠ '.')).reverse
    -- The dot and the ending must leave something in front of them.
    if ending.length + 1 < name.length then some ending else none

end Path
end NestChart

import NestChart.Text.Basic
import NestChart.Text.Visible

/-!
# NestChart.Text.Quoted

Texts between double quotes on one line. Quotes, backslashes, line ends, tabs and characters that
cannot be seen are written as escapes, so that no two texts are written alike.
-/

namespace NestChart.Text.Quoted

/-- A number in small hexadecimal digits. -/
def hex (n : Nat) : Chars := Nat.toDigits 16 n

/-- How a character is written between the quotes. -/
def encodeChar (c : Char) : Chars :=
  if c = '"' then ['\\', '"']
  else if c = '\\' then ['\\', '\\']
  else if c = '\n' then ['\\', 'n']
  else if c = '\r' then ['\\', 'r']
  else if c = '\t' then ['\\', 't']
  else if c = '\x00' then ['\\', '0']
  else if isVisible c then [c]
  else ['\\', 'u', '\x7b'] ++ hex c.toNat ++ ['\x7d']

def encode (cs : Chars) : Chars := ['"'] ++ cs.flatMap encodeChar ++ ['"']

end NestChart.Text.Quoted

import Seismicity.Quoting.Extending
import Seismicity.Quoting.Unprintable

/-!
# Quoting

How messages quote text so that every character of it can be seen. What has no
glyph, or would be drawn onto another character, is given by its number.

## Main definitions

* `Quoting.showsNothing`: A character that cannot stand for itself.
* `Quoting.quote`: A text within quotes.
-/

namespace Seismicity

namespace Quoting

/-- A number lies in one of some ranges. -/
def within (ranges : List (Nat × Nat)) (n : Nat) : Bool :=
  ranges.any fun (first, last) => first ≤ n && n ≤ last

/-- A character without a glyph of its own. -/
def showsNothing (c : Char) : Bool :=
  within unprintable c.toNat || within extending c.toNat

/-- A character within quotes. -/
def quoteChar (c : Char) : List Char :=
  if c = '"' then ['\\', '"']
  else if c = '\\' then ['\\', '\\']
  else if c = '\n' then ['\\', 'n']
  else if c = '\r' then ['\\', 'r']
  else if c = '\t' then ['\\', 't']
  else if c.toNat = 0 then ['\\', '0']
  else if showsNothing c then
    ['\\', 'u', '\x7b'] ++ Nat.toDigits 16 c.toNat ++ ['\x7d']
  else [c]

/-- A text within quotes. -/
def quote (s : String) : String := String.ofList ('"' :: s.toList.flatMap quoteChar ++ ['"'])

end Quoting

end Seismicity

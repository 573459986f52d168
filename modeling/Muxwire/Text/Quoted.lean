import Muxwire.Text.DefaultIgnorable
import Muxwire.Text.GraphemeExtend
import Muxwire.Text.Hex
import Muxwire.Text.Unprintable

/-!
# Quoted text

Text between double quotes, with escapes for what would not show.

* The quote, the backslash, tab, line feed, carriage return and NUL have two-character escapes.
* Any other character that would not show by itself is written as `\u{…}` with its code point in
  lower-case hexadecimal: one that is unprintable, one that a display may ignore, and a mark on the
  character before it (`isHidden`).
* Every other character stands for itself.
-/

namespace Muxwire.Text.Quoted

/-- Whether a character without an escape of its own is written by its code point. -/
def isHidden (c : Char) : Bool :=
  if c.toNat < 0x7F then c.toNat < 0x20
  else Unprintable.contains c || DefaultIgnorable.contains c || GraphemeExtend.isMark c

/-- The characters that stand for `c` between quotes. -/
def escape (c : Char) : List Char :=
  if c = '"' then ['\\', '"']
  else if c = '\\' then ['\\', '\\']
  else if c = '\t' then ['\\', 't']
  else if c = '\n' then ['\\', 'n']
  else if c = '\r' then ['\\', 'r']
  else if c.toNat = 0 then ['\\', '0']
  else if isHidden c then
    ['\\', 'u', '\x7b'] ++ Hex.digits c.toNat ++ ['\x7d']
  else [c]

/-- The quoted form of a text. -/
def quote (s : String) : String :=
  String.ofList ('"' :: s.toList.flatMap escape ++ ['"'])

end Muxwire.Text.Quoted

import Dissect.Bytes.Basic
import Dissect.Text.Invisible
import Dissect.Text.Extend

/-!
# Quoted text

Text shown inside double quotes in diagnostics. A tab, a carriage return, a line feed, NUL, the
backslash and the double quote are written as `\t`, `\r`, `\n`, `\0`, `\\` and `\"`. A grapheme
extender or an invisible character is written as `\u{h}`, its code point in lowercase
hexadecimal without leading zeros. Every other character stands as it is, the single quote
included.
-/

set_option autoImplicit false

namespace Dissect.Text

/-- How one character is written inside quotes. -/
def escapeChar (c : Char) : List Char :=
  if c = '\x00' then ['\\', '0']
  else if c = '\t' then ['\\', 't']
  else if c = '\r' then ['\\', 'r']
  else if c = '\n' then ['\\', 'n']
  else if c = '\\' then ['\\', '\\']
  else if c = '"' then ['\\', '"']
  else if isExtend c || isInvisible c then
    ['\\', 'u', '\x7b'] ++ Nat.toDigits 16 c.toNat ++ ['\x7d']
  else [c]

def quote (s : String) : String :=
  String.ofList ('"' :: s.toList.flatMap escapeChar ++ ['"'])

theorem escapeChar_ne_nil (c : Char) : escapeChar c ≠ [] := by
  unfold escapeChar
  repeat' split
  all_goals simp

end Dissect.Text

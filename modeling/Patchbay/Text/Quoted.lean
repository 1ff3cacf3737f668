/-
Quoted text: a text between quotation marks in which every character that would not show as itself
is escaped. A common control character is written with a letter, any other unprintable one by its
code point in lower-case hexadecimal.
-/
import Patchbay.Text.Unprintable

namespace Patchbay.Text

/-- The code point of `c` as an escape: U+0301 is `\u{301}`. -/
def codePointEscape (c : Char) : String :=
  "\\u\x7b" ++ String.ofList (Nat.toDigits 16 c.toNat) ++ "\x7d"

/-- How `c` is written inside the quotation mark `mark`. -/
def escaped (mark c : Char) : String :=
  if c = mark ∨ c = '\\' then String.ofList ['\\', c]
  else if c = '\n' then "\\n"
  else if c = '\r' then "\\r"
  else if c = '\t' then "\\t"
  else if c.toNat = 0 then "\\0"
  else if isUnprintable c then codePointEscape c
  else c.toString

/-- `s` in double quotes. -/
def quoted (s : String) : String :=
  "\"" ++ String.join (s.toList.map (escaped '\x22')) ++ "\""

/-- `c` in single quotes. -/
def quotedChar (c : Char) : String := "'" ++ escaped '\x27' c ++ "'"

end Patchbay.Text

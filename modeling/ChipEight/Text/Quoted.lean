import ChipEight.Text.Hex
import ChipEight.Text.Printable

/-!
Texts between quotes on one line: what cannot be printed is written by its code point, with as many
digits as the letter in front of them says.
-/

namespace ChipEight.Text

def codePoint (c : Char) : List Char :=
  let n := c.toNat
  '\\' ::
    if n < 0x100 then 'x' :: lowerHexDigits 2 n
    else if n < 0x10000 then 'u' :: lowerHexDigits 4 n
    else 'U' :: lowerHexDigits 8 n

def quotedChar (q c : Char) : List Char :=
  if c = q || c = '\\' then ['\\', c]
  else
    match c with
    | '\t' => ['\\', 't']
    | '\n' => ['\\', 'n']
    | '\r' => ['\\', 'r']
    | c => if isPrintable c then [c] else codePoint c

/-- Single quotes are used unless the text holds single quotes and no double ones. -/
def quoteMark (cs : List Char) : Char :=
  if cs.contains '\'' && !cs.contains '"' then '"' else '\''

def quoted (s : String) : String :=
  let q := quoteMark s.toList
  String.ofList ([q] ++ s.toList.flatMap (quotedChar q) ++ [q])

end ChipEight.Text

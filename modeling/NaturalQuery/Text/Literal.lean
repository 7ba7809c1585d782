import NaturalQuery.Text.Printable

/-!
Text written as a quoted literal. The quotes are single ones, or double ones when the text holds
a single quote and no double quote. Inside, the chosen quote and the backslash are escaped, tab,
line feed and carriage return take their letter escapes, and any other character that is not
printable is written as `\xNN`, `\uNNNN` or `\UNNNNNNNN` by its size.
-/

namespace NaturalQuery.Text

def hexDigits (width : Nat) (n : Nat) : String :=
  let digit (d : Nat) : Char := if d < 10 then Char.ofNat (48 + d) else Char.ofNat (87 + d)
  String.ofList ((List.range width).reverse.map fun i => digit (n / Nat.pow 16 i % 16))

def literalChar (quote : Char) (c : Char) : String :=
  if c = quote || c = '\\' then String.ofList ['\\', c]
  else if c = '\t' then "\\t"
  else if c = '\n' then "\\n"
  else if c = '\r' then "\\r"
  else if isPrintable c then c.toString
  else if c.toNat ≤ 0xFF then "\\x" ++ hexDigits 2 c.toNat
  else if c.toNat ≤ 0xFFFF then "\\u" ++ hexDigits 4 c.toNat
  else "\\U" ++ hexDigits 8 c.toNat

def literal (s : String) : String :=
  let quote := if s.contains '\'' && !s.contains '"' then '"' else '\''
  quote.toString ++ String.join (s.toList.map (literalChar quote)) ++ quote.toString

end NaturalQuery.Text

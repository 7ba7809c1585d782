import NaturalQuery.Json.Value
import NaturalQuery.Decimal.Notation

/-!
Writing JSON text. A `Layout` says whether members go on one line (`, ` and `: ` between them)
or one per line indented, and whether characters outside printable ASCII are written as
`\u` escapes. Doubles are written with the round-trip notation, their special values as
`Infinity`, `-Infinity` and `NaN`.
-/

namespace NaturalQuery.Json

structure Layout where
  indent : Option Nat
  asciiOnly : Bool

def numberNotation : Decimal.Notation :=
  { Decimal.Notation.roundTrip with infinity := "Infinity", notANumber := "NaN" }

def hex4 (n : Nat) : String :=
  let digit (k : Nat) : Char :=
    let d := (n / Nat.pow 16 k) % 16
    if d < 10 then Char.ofNat (48 + d) else Char.ofNat (87 + d)
  String.ofList [digit 3, digit 2, digit 1, digit 0]

def escapeChar (asciiOnly : Bool) (c : Char) : String :=
  if c = '"' then "\\\""
  else if c = '\\' then "\\\\"
  else if c = '\n' then "\\n"
  else if c = '\r' then "\\r"
  else if c = '\t' then "\\t"
  else if c.toNat = 8 then "\\b"
  else if c.toNat = 12 then "\\f"
  else if c.toNat < 32 then "\\u" ++ hex4 c.toNat
  else if asciiOnly && c.toNat ≥ 127 then
    if c.toNat < 65536 then "\\u" ++ hex4 c.toNat
    else
      let v := c.toNat - 65536
      "\\u" ++ hex4 (0xD800 + v / 1024) ++ "\\u" ++ hex4 (0xDC00 + v % 1024)
  else String.singleton c

def quote (asciiOnly : Bool) (s : String) : String :=
  "\"" ++ String.join (s.toList.map (escapeChar asciiOnly)) ++ "\""

def Layout.lineAt (layout : Layout) (depth : Nat) : String :=
  match layout.indent with
  | some width => "\n" ++ String.ofList (List.replicate (width * depth) ' ')
  | none => ""

def Layout.separator (layout : Layout) : String :=
  match layout.indent with
  | some _ => ","
  | none => ", "

def Layout.wrap (layout : Layout) (depth : Nat) (opening closing : String)
    (items : List String) : String :=
  match items with
  | [] => opening ++ closing
  | _ =>
    let inner := layout.lineAt (depth + 1)
    opening ++ inner ++ String.intercalate (layout.separator ++ inner) items ++
      layout.lineAt depth ++ closing

mutual

def Layout.write (layout : Layout) (depth : Nat) : Json → String
  | .null => "null"
  | .bool b => if b then "true" else "false"
  | .int n => toString n
  | .float x => numberNotation.render x
  | .str s => quote layout.asciiOnly s
  | .arr items => layout.wrap depth "[" "]" (layout.writeItems depth items)
  | .obj members => layout.wrap depth "\x7b" "\x7d" (layout.writeMembers depth members)

def Layout.writeItems (layout : Layout) (depth : Nat) : List Json → List String
  | [] => []
  | item :: rest => layout.write (depth + 1) item :: layout.writeItems depth rest

def Layout.writeMembers (layout : Layout) (depth : Nat) : List (String × Json) → List String
  | [] => []
  | (key, value) :: rest =>
    (quote layout.asciiOnly key ++ ": " ++ layout.write (depth + 1) value) ::
      layout.writeMembers depth rest

end

def render (layout : Layout) (value : Json) : String :=
  layout.write 0 value

def Layout.line : Layout := ⟨none, false⟩

end NaturalQuery.Json

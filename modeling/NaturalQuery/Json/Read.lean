import NaturalQuery.Json.Value

/-!
Reading JSON text into a `Json` value. A number with neither fraction nor exponent becomes an
integer of any size; any other number becomes the double nearest to its decimal value. The
literals `NaN`, `Infinity` and `-Infinity` are read as doubles. A repeated object key keeps its
first place and its last value. The reader is a recursive descent whose fuel is the length of
the text, and every step consumes at least one character.
-/

namespace NaturalQuery.Json

abbrev Rest := List Char

def isBlank (c : Char) : Bool :=
  c = ' ' || c = '\t' || c = '\n' || c = '\r'

def skipBlank (cs : List Char) : List Char :=
  cs.dropWhile isBlank

def isDigit (c : Char) : Bool :=
  '0' ≤ c && c ≤ '9'

def hexValue (c : Char) : Option Nat :=
  if '0' ≤ c && c ≤ '9' then some (c.toNat - 48)
  else if 'a' ≤ c && c ≤ 'f' then some (c.toNat - 87)
  else if 'A' ≤ c && c ≤ 'F' then some (c.toNat - 55)
  else none

def readHex4 : List Char → Option (Nat × List Char)
  | a :: b :: c :: d :: rest => do
    let va ← hexValue a
    let vb ← hexValue b
    let vc ← hexValue c
    let vd ← hexValue d
    pure (((va * 16 + vb) * 16 + vc) * 16 + vd, rest)
  | _ => none

def insertMember (members : List (String × Json)) (key : String) (value : Json) :
    List (String × Json) :=
  if members.any (·.1 == key) then
    members.map fun m => if m.1 == key then (key, value) else m
  else members ++ [(key, value)]

def readString : Nat → List Char → List Char → Option (String × List Char)
  | 0, _, _ => none
  | _ + 1, _, [] => none
  | fuel + 1, acc, c :: rest =>
    if c = '"' then some (String.ofList acc.reverse, rest)
    else if c = '\\' then
      match rest with
      | 'n' :: more => readString fuel ('\n' :: acc) more
      | 't' :: more => readString fuel ('\t' :: acc) more
      | 'r' :: more => readString fuel ('\r' :: acc) more
      | 'b' :: more => readString fuel (Char.ofNat 8 :: acc) more
      | 'f' :: more => readString fuel (Char.ofNat 12 :: acc) more
      | '/' :: more => readString fuel ('/' :: acc) more
      | '\\' :: more => readString fuel ('\\' :: acc) more
      | '"' :: more => readString fuel ('"' :: acc) more
      | 'u' :: more =>
        match readHex4 more with
        | none => none
        | some (unit, after) =>
          if 0xD800 ≤ unit && unit < 0xDC00 then
            match after with
            | '\\' :: 'u' :: more2 =>
              match readHex4 more2 with
              | some (low, after2) =>
                if 0xDC00 ≤ low && low < 0xE000 then
                  readString fuel
                    (Char.ofNat (0x10000 + (unit - 0xD800) * 1024 + (low - 0xDC00)) :: acc) after2
                else readString fuel (Char.ofNat 0xFFFD :: acc) after
              | none => none
            | _ => readString fuel (Char.ofNat 0xFFFD :: acc) after
          else readString fuel (Char.ofNat unit :: acc) after
      | _ => none
    else readString fuel (c :: acc) rest

def readNumber (negative : Bool) (cs : List Char) : Option (Json × List Char) :=
  let whole := cs.takeWhile isDigit
  let afterWhole := cs.dropWhile isDigit
  if whole.isEmpty then none
  else
    let (frac, afterFrac) :=
      match afterWhole with
      | '.' :: more => (some (more.takeWhile isDigit), more.dropWhile isDigit)
      | _ => (none, afterWhole)
    let (expo, afterExp) :=
      match afterFrac with
      | e :: more =>
        if e = 'e' || e = 'E' then
          let (sign, digits) :=
            match more with
            | '-' :: ds => (true, ds)
            | '+' :: ds => (false, ds)
            | ds => (false, ds)
          let ds := digits.takeWhile isDigit
          if ds.isEmpty then (none, afterFrac)
          else
            let n : Int := (String.ofList ds).toNat!
            (some (if sign then -n else n), digits.dropWhile isDigit)
        else (none, afterFrac)
      | [] => (none, afterFrac)
    let digitsValue (ds : List Char) : Nat := ds.foldl (fun n c => 10 * n + (c.toNat - 48)) 0
    match frac, expo with
    | none, none =>
      let n : Int := digitsValue whole
      some (.int (if negative then -n else n), afterExp)
    | _, _ =>
      let fracDigits := frac.getD []
      if frac == some [] then none
      else
        let mantissa := digitsValue (whole ++ fracDigits)
        let exponent : Int := expo.getD 0 - fracDigits.length
        let magnitude :=
          if exponent < 0 then Float.ofScientific mantissa true exponent.natAbs
          else Float.ofScientific mantissa false exponent.natAbs
        some (.float (if negative then -magnitude else magnitude), afterExp)

mutual

def readValue : Nat → List Char → Option (Json × List Char)
  | 0, _ => none
  | fuel + 1, cs =>
    match skipBlank cs with
    | 'n' :: 'u' :: 'l' :: 'l' :: rest => some (.null, rest)
    | 't' :: 'r' :: 'u' :: 'e' :: rest => some (.bool true, rest)
    | 'f' :: 'a' :: 'l' :: 's' :: 'e' :: rest => some (.bool false, rest)
    | 'N' :: 'a' :: 'N' :: rest => some (.float (0.0 / 0.0), rest)
    | 'I' :: 'n' :: 'f' :: 'i' :: 'n' :: 'i' :: 't' :: 'y' :: rest => some (.float (1.0 / 0.0), rest)
    | '-' :: 'I' :: 'n' :: 'f' :: 'i' :: 'n' :: 'i' :: 't' :: 'y' :: rest =>
      some (.float (-1.0 / 0.0), rest)
    | '"' :: rest => (readString (rest.length + 1) [] rest).map fun (s, r) => (.str s, r)
    | '[' :: rest =>
      match skipBlank rest with
      | ']' :: after => some (.arr [], after)
      | _ => readItems fuel [] rest
    | '{' :: rest =>
      match skipBlank rest with
      | '}' :: after => some (.obj [], after)
      | _ => readMembers fuel [] rest
    | '-' :: rest => readNumber true rest
    | cs' => readNumber false cs'

def readItems : Nat → List Json → List Char → Option (Json × List Char)
  | 0, _, _ => none
  | fuel + 1, acc, cs =>
    match readValue fuel cs with
    | none => none
    | some (item, rest) =>
      match skipBlank rest with
      | ',' :: more => readItems fuel (item :: acc) more
      | ']' :: more => some (.arr (item :: acc).reverse, more)
      | _ => none

def readMembers : Nat → List (String × Json) → List Char → Option (Json × List Char)
  | 0, _, _ => none
  | fuel + 1, acc, cs =>
    match skipBlank cs with
    | '"' :: rest =>
      match readString (rest.length + 1) [] rest with
      | none => none
      | some (key, afterKey) =>
        match skipBlank afterKey with
        | ':' :: afterColon =>
          match readValue fuel afterColon with
          | none => none
          | some (value, afterValue) =>
            match skipBlank afterValue with
            | ',' :: more => readMembers fuel (insertMember acc key value) more
            | '}' :: more => some (.obj (insertMember acc key value), more)
            | _ => none
        | _ => none
    | _ => none

end

def parse (text : String) : Option Json :=
  let cs := text.toList
  match readValue (2 * cs.length + 2) cs with
  | some (value, rest) => if (skipBlank rest).isEmpty then some value else none
  | none => none

end NaturalQuery.Json

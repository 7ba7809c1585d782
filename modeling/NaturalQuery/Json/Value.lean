/-!
JSON documents as the interpreter exchanges them. Numbers keep their kind: an integer is an
`Int` of any size and a number written with a fraction or an exponent is a `Float`, so `5` and
`5.0` stay apart. Object members keep the order in which they were written.
-/

namespace NaturalQuery

/-- A JSON value; members of an object are kept in their written order. -/
inductive Json where
  | null
  | bool (value : Bool)
  | int (value : Int)
  | float (value : Float)
  | str (value : String)
  | arr (items : List Json)
  | obj (members : List (String × Json))
  deriving Inhabited

namespace Json

def field? (value : Json) (key : String) : Option Json :=
  match value with
  | .obj members => members.lookup key
  | _ => none

def hasField (value : Json) (key : String) : Bool :=
  (value.field? key).isSome

def str? : Json → Option String
  | .str s => some s
  | _ => none

def arr? : Json → Option (List Json)
  | .arr items => some items
  | _ => none

def int? : Json → Option Int
  | .int n => some n
  | _ => none

def bool? : Json → Option Bool
  | .bool b => some b
  | _ => none

def isNull : Json → Bool
  | .null => true
  | _ => false

def ofOption (text : Option String) : Json :=
  match text with
  | some s => .str s
  | none => .null

theorem field?_obj_cons (key : String) (value : Json) (rest : List (String × Json)) :
    (Json.obj ((key, value) :: rest)).field? key = some value :=
  List.lookup_cons_self

end Json

end NaturalQuery

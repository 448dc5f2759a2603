import SoakRig.Decimal.Shortest

/-!
# JSON values

Values with the fields of objects in order, and their compact text.
-/

namespace SoakRig

/-- A JSON value. Whole numbers and other numbers are told apart. -/
inductive Json where
  | null
  | bool (b : Bool)
  | integer (n : Int)
  | number (x : Binary64)
  | string (s : String)
  | array (items : List Json)
  | object (fields : List (String × Json))
deriving Inhabited

namespace Json

/-- How one character is written inside a string. -/
def escape (c : Char) : List Char :=
  if c = '"' then ['\\', '"']
  else if c = '\\' then ['\\', '\\']
  else if c = '\n' then ['\\', 'n']
  else if c = '\r' then ['\\', 'r']
  else if c = '\t' then ['\\', 't']
  else if c = '\x08' then ['\\', 'b']
  else if c = '\x0c' then ['\\', 'f']
  else if c.toNat < 0x20 then
    "\\u00".toList ++ (if c.toNat < 0x10 then ['0'] else []) ++ Nat.toDigits 16 c.toNat
  else [c]

/-- The text of a string. -/
def renderString (s : String) : String :=
  String.ofList ('"' :: (s.toList.flatMap escape ++ ['"']))

mutual

/-- The compact text of a value. What is no finite number is written as null. -/
def render : Json → String
  | .null => "null"
  | .bool b => if b then "true" else "false"
  | .integer n => String.ofList (Decimal.integer n)
  | .number x =>
    if x.isNaN || x.isInfinite then "null" else Decimal.shortest .structured x
  | .string s => renderString s
  | .array items => "[" ++ String.intercalate "," (renderItems items) ++ "]"
  | .object fields => "\x7b" ++ String.intercalate "," (renderFields fields) ++ "\x7d"

/-- The texts of the items of an array. -/
def renderItems : List Json → List String
  | [] => []
  | item :: items => item.render :: renderItems items

/-- The texts of the fields of an object. -/
def renderFields : List (String × Json) → List String
  | [] => []
  | (name, value) :: fields => (renderString name ++ ":" ++ value.render) :: renderFields fields

end

/-- The value of the first field with the name. -/
def field? (name : String) (fields : List (String × Json)) : Option Json :=
  (fields.find? fun f => f.1 == name).map (·.2)

end Json

end SoakRig

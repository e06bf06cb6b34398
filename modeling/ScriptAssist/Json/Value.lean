import ScriptAssist.Json.Number

/-!
# Messages as values

The values that records and messages are made of, and their compact text: no blanks, fields in
the order they stand in, and in strings only the escapes that are needed.
-/

namespace ScriptAssist

/-- A value of a message. -/
inductive Json where
  | null
  | bool (b : Bool)
  | num (n : Number)
  | str (s : Text)
  | arr (items : List Json)
  | obj (fields : List (Text × Json))
  deriving Repr

namespace Json

/-- Puts a field at its place among fields in ascending order of their names; a field of the same
name is replaced. -/
def insertField (name : Text) (value : Json) : List (Text × Json) → List (Text × Json)
  | [] => [(name, value)]
  | field :: fields =>
    if name = field.1 then (name, value) :: fields
    else if Text.precedes name field.1 then (name, value) :: field :: fields
    else field :: insertField name value fields

/-- The object with these fields in ascending order of their names; of two fields with one name the
later stays. -/
def ofFields (fields : List (Text × Json)) : Json :=
  .obj (fields.foldl (fun sorted field => insertField field.1 field.2 sorted) [])

mutual

/-- The value with the fields of every object in ascending order of their names. -/
def sorted : Json → Json
  | .arr items => .arr (sortedItems items)
  | .obj fields => ofFields (sortedFields fields)
  | value => value

/-- The values, each with its fields in order. -/
def sortedItems : List Json → List Json
  | [] => []
  | item :: items => sorted item :: sortedItems items

/-- The fields, each with the fields of its value in order. -/
def sortedFields : List (Text × Json) → List (Text × Json)
  | [] => []
  | (name, value) :: fields => (name, sorted value) :: sortedFields fields

end

/-- A character as it stands between quotes. -/
def escape (c : Char) : Text :=
  if c = '"' then ['\\', '"']
  else if c = '\\' then ['\\', '\\']
  else if c = '\n' then ['\\', 'n']
  else if c = '\r' then ['\\', 'r']
  else if c = '\t' then ['\\', 't']
  else if c.toNat = 8 then ['\\', 'b']
  else if c.toNat = 12 then ['\\', 'f']
  else if c.toNat < 0x20 then
    ['\\', 'u', '0', '0', Text.hexDigit (c.toNat / 16), Text.hexDigit (c.toNat % 16)]
  else [c]

/-- The text `s` between quotes. -/
def quote (s : Text) : Text :=
  '"' :: s.flatMap escape ++ ['"']

mutual

/-- The compact text of a value. -/
def toText : Json → Text
  | .null => "null".toList
  | .bool true => "true".toList
  | .bool false => "false".toList
  | .num n => n.toText
  | .str s => quote s
  | .arr items => '[' :: (itemsText items).drop 1 ++ [']']
  | .obj fields => '\x7b' :: (fieldsText fields).drop 1 ++ ['\x7d']

/-- The values, each behind a comma. -/
def itemsText : List Json → Text
  | [] => []
  | item :: items => ',' :: toText item ++ itemsText items

/-- The fields, each behind a comma. -/
def fieldsText : List (Text × Json) → Text
  | [] => []
  | (name, value) :: fields => ',' :: quote name ++ ':' :: toText value ++ fieldsText fields

end

/-- The whole number `i`. -/
def int (i : Int) : Json :=
  .num (.int i)

/-- The array of these texts. -/
def texts (items : List Text) : Json :=
  .arr (items.map .str)

/-- The field of an object with this name; with several the last counts. -/
def field? (name : Text) : Json → Option Json
  | .obj fields => fields.reverse.lookup name
  | _ => none

/-- The text of a string. -/
def text? : Json → Option Text
  | .str s => some s
  | _ => none

/-- The truth value. -/
def bool? : Json → Option Bool
  | .bool b => some b
  | _ => none

/-- The whole number between the bounds. -/
def int? (low high : Int) : Json → Option Int
  | .num n => n.toInt? low high
  | _ => none

/-- The items of an array, each read by `item`. -/
def list? {α : Type} (item : Json → Option α) : Json → Option (List α)
  | .arr items => items.mapM item
  | _ => none

/-- Whether a value is the null value. -/
def isNull : Json → Bool
  | .null => true
  | _ => false

end Json

end ScriptAssist

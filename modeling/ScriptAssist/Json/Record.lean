import ScriptAssist.Json.Value

/-!
# Records in messages

A record is an object with a field for each of its parts, or an array of its parts in order.
Unknown fields are ignored, and parts at the end of an array may be left out if they have a
default.
-/

namespace ScriptAssist.Json

/-- The parts of a record with these field names, each if it is there. An array with more parts
than there are names is no such record. -/
def parts? (names : List Text) : Json → Option (List (Option Json))
  | .obj fields => some (names.map fun name => (Json.obj fields).field? name)
  | .arr items =>
    if items.length ≤ names.length then
      some (items.map some ++ List.replicate (names.length - items.length) none)
    else none
  | _ => none

/-- A part that must be there. -/
def required {α : Type} (read : Json → Option α) (part : Option Json) : Option α :=
  part.bind read

/-- A part that has a default. -/
def optional {α : Type} (default : α) (read : Json → Option α) : Option Json → Option α
  | none => some default
  | some value => read value

end ScriptAssist.Json

import PlanetServer.Json.Basic
import PlanetServer.Text.Quoted

/-!
# Writing JSON

The compact text of a JSON value: no blanks, the members of an object in increasing order of
their names.
-/

namespace PlanetServer.Json

mutual

/-- The compact text of a value. -/
def compact : Json → List Char
  | .null => "null".toList
  | .bool value => if value then "true".toList else "false".toList
  | .number value => value.text.toList
  | .string value => Text.quoted value.toList
  | .array [] => ['[', ']']
  | .array (item :: items) => '[' :: compact item ++ compactItems items
  | .object [] => ['\x7b', '\x7d']
  | .object ((name, value) :: members) =>
    '\x7b' :: Text.quoted name.toList ++ ':' :: compact value ++ compactMembers members

/-- The text of the items after the first one, and the end of the list. -/
def compactItems : List Json → List Char
  | [] => [']']
  | item :: items => ',' :: compact item ++ compactItems items

/-- The text of the members after the first one, and the end of the object. -/
def compactMembers : List (String × Json) → List Char
  | [] => ['\x7d']
  | (name, value) :: members =>
    ',' :: Text.quoted name.toList ++ ':' :: compact value ++ compactMembers members

end

/-- The compact text of a value. -/
def render (json : Json) : String :=
  String.ofList json.compact

end PlanetServer.Json

import PlanetServer.Json.Number

/-!
# JSON values

The members of an object are kept in increasing order of their names, one member for each name.
The order of texts by code points is also the order of their UTF-8 bytes.
-/

namespace PlanetServer

/-- A JSON value. -/
inductive Json where
  /-- Nothing. -/
  | null
  /-- A truth value. -/
  | bool (value : Bool)
  /-- A number. -/
  | number (value : Json.Number)
  /-- A text. -/
  | string (value : String)
  /-- A list of values. -/
  | array (items : List Json)
  /-- Named values, in increasing order of their names. -/
  | object (members : List (String × Json))
deriving Inhabited

namespace Json

/-- The members with one more, or with another value for a name that was there. -/
def insertMember (name : String) (value : Json) : List (String × Json) → List (String × Json)
  | [] => [(name, value)]
  | (other, held) :: rest =>
    if name < other then (name, value) :: (other, held) :: rest
    else if name = other then (name, value) :: rest
    else (other, held) :: insertMember name value rest

/-- The object of some members; the last of those with one name counts. -/
def ofMembers (members : List (String × Json)) : Json :=
  .object (members.foldl (fun held (name, value) => insertMember name value held) [])

/-- An integer. -/
def int (value : Int) : Json :=
  .number (.int value)

/-- A natural number. -/
def nat (value : Nat) : Json :=
  .int value

/-- A text, or null. -/
def stringOrNull : Option String → Json
  | some s => .string s
  | none => .null

/-- The value of a member, if this is an object that has it. -/
def get? (json : Json) (name : String) : Option Json :=
  match json with
  | .object members => members.lookup name
  | _ => none

/-- The text, if this is one. -/
def string? : Json → Option String
  | .string s => some s
  | _ => none

/-- The integer, if this is one. -/
def int? : Json → Option Int
  | .number (.int value) => some value
  | _ => none

/-- The items, if this is a list. -/
def list? : Json → Option (List Json)
  | .array items => some items
  | _ => none

end Json

end PlanetServer

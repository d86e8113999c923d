/-!
# TOML values

A document is a table. While a document is read, a table also records how it came to be, because that
decides whether later lines may add to it.

A number may be written well and still have no value. Such a number is a fault only where it is looked
at, so it stays in the document.
-/

namespace PlanetServer.Toml

/-- How a table came to be. -/
inductive Origin where
  /-- By a header of its own, or as the document itself. -/
  | header
  /-- By the header of a table within it. -/
  | implied
  /-- By a key with dots. -/
  | dotted
  /-- By braces. -/
  | inline
deriving DecidableEq, Repr

/-- A TOML value. Of numbers with a fraction and of dates only the kind is kept. -/
inductive Item where
  /-- A text. -/
  | string (value : String)
  /-- An integer. -/
  | integer (value : Int)
  /-- A number with a fraction or an exponent. -/
  | float
  /-- A number that is too large or lacks the digits after its base. -/
  | excess
  /-- A truth value. -/
  | boolean (value : Bool)
  /-- A date, a time, or both. -/
  | datetime
  /-- A list in brackets. -/
  | array (items : List Item)
  /-- A table. -/
  | table (origin : Origin) (entries : List (String × Item))
  /-- The tables of headers in double brackets, each as its entries. -/
  | tables (each : List (List (String × Item)))
deriving Inhabited

/-- The entries of a table. -/
abbrev Entries := List (String × Item)

mutual

/-- Whether all numbers in a value have values of their own. -/
def Item.isSound : Item → Bool
  | .excess => false
  | .array items => areSound items
  | .table _ entries => haveSound entries
  | .tables each => allHaveSound each
  | _ => true

/-- Whether all numbers in some values have values of their own. -/
def areSound : List Item → Bool
  | [] => true
  | item :: items => item.isSound && areSound items

/-- Whether all numbers in the entries of a table have values of their own. -/
def haveSound : List (String × Item) → Bool
  | [] => true
  | (_, item) :: entries => item.isSound && haveSound entries

/-- Whether all numbers in the entries of some tables have values of their own. -/
def allHaveSound : List (List (String × Item)) → Bool
  | [] => true
  | entries :: each => haveSound entries && allHaveSound each

end

end PlanetServer.Toml

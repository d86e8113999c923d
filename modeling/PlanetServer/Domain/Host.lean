import PlanetServer.Domain.Address
import PlanetServer.Domain.Name
import PlanetServer.Text.Utf8
import PlanetServer.Text.Percent

/-!
# Hosts

The host that is given in the name of a document: this machine or another one. An address stands for
another machine, even if it is an address of this one.
-/

namespace PlanetServer.Domain

/-- The machine that a name speaks of, as far as it matters. -/
inductive Host where
  /-- None is given. -/
  | unnamed
  /-- This machine, by its name. -/
  | localhost
  /-- Any other one. -/
  | other
deriving DecidableEq, Repr

namespace Host

/-- The name of this machine. -/
def localName : List Char :=
  "localhost".toList

/-- The host that a text in brackets stands for. -/
def ofBrackets? (cs : List Char) : Option Host :=
  if cs.getLast? = some ']' && isSixteenBytes cs.dropLast then some .other else none

/-- The host that a folded and composed name stands for. -/
def ofNormal? (name : List Char) : Option Host := do
  let labels := labelsOf name
  let texts ← labels.mapM labelText?
  if name.isEmpty || !texts.all isLabel || !areOneWay texts then none
  else if name = localName then some .localhost
  else if endsInNumber labels && !isFourBytes labels then none
  else some .other

/-- The host that a text stands for. What is encoded by percent signs is decoded first. -/
def ofText? : List Char → Option Host
  | '[' :: rest => ofBrackets? rest
  | cs => (normal? (Utf8.decodeLossy (Text.percentDecode (Utf8.encode cs)))).bind ofNormal?

/-- Whether a character may not stand in a name that is taken as it is. -/
def isForbiddenAsIs (c : Char) : Bool :=
  c.toNat == 0 || " #/:<>?@[\\]^|".toList.contains c

/-- The host that a text stands for where names are taken as they are. -/
def ofTextAsIs? : List Char → Option Host
  | [] => some .unnamed
  | '[' :: rest => ofBrackets? rest
  | cs =>
    if cs.any isForbiddenAsIs then none
    else some (if cs = localName then .localhost else .other)

end Host

end PlanetServer.Domain

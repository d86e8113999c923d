import PlanetServer.Domain.Direction
import PlanetServer.Domain.Folding
import PlanetServer.Domain.Joining
import PlanetServer.Domain.Punycode
import PlanetServer.Text.Composition

/-!
# Names of hosts

A name of a host is folded and composed, and then divided into labels at its full stops. A label that
is written in Punycode has to be the written form of a label that is folded and composed already.
-/

namespace PlanetServer.Domain

/-- Whether a character may not stand in the name of a host. -/
def isForbidden (c : Char) : Bool :=
  c.toNat ≤ 0x20 || c.toNat == 0x7F || "#/:<>?@[\\]^|%".toList.contains c

/-- Whether a character is of the ASCII range. -/
def isAscii (c : Char) : Bool :=
  c.toNat < 0x80

/-- What a label in Punycode starts with. -/
def punycodeMark : List Char :=
  "xn--".toList

/-- The text that a label in Punycode stands for. It has a character beyond ASCII, so that no hyphen
ends the written form. -/
def decodedLabel? (written : List Char) : Option (List Char) := do
  if written.all isAscii && written.getLast?.any (· ≠ '-') && written.length ≤ 2000 then
    let text ← Punycode.decode? written
    if text.all isSettled && Text.composed text = text then some text else none
  else none

/-- The text that a label stands for. -/
def labelText? (label : List Char) : Option (List Char) :=
  if punycodeMark.isPrefixOf label then decodedLabel? (label.drop punycodeMark.length) else some label

/-- Whether a text may be a label: it starts with no mark, its joiners fit, and it is not too long. -/
def isLabel (text : List Char) : Bool :=
  !text.head?.any Text.isMark && joinersFit [] text && (text.all isAscii || text.length ≤ 1000)

/-- Whether labels are each of one direction, if any letter is written from right to left. -/
def areOneWay (labels : List (List Char)) : Bool :=
  !(labels.any fun label => label.any isRightToLeft) || labels.all isOneWay

/-- The folded and composed form of a text, none if a character in it is not allowed. -/
def normal? (cs : List Char) : Option (List Char) := do
  let text := Text.composed (← cs.mapM fold?).flatten
  if text.any isForbidden then none else some text

end PlanetServer.Domain

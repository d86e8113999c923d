import PlanetServer.Text.Utf8

/-!
# Paths of files

A path is a sequence of bytes in which slashes divide the components. It need not be text.
-/

namespace PlanetServer

open Utf8 (Bytes)

/-- A path of a file or a directory. -/
structure Path where
  /-- The bytes of the path. -/
  bytes : Bytes
deriving DecidableEq, Repr

namespace Path

/-- The byte that divides the components. -/
def slash : UInt8 :=
  0x2F

/-- The byte of a full stop. -/
def stop : UInt8 :=
  0x2E

/-- The path that a text stands for. -/
def ofString (s : String) : Path :=
  ⟨Utf8.encodeString s⟩

/-- The text of the path, with what is not text replaced. -/
def display (p : Path) : String :=
  String.ofList (Utf8.decodeLossy p.bytes)

/-- Whether the path starts at the root. -/
def isAbsolute (p : Path) : Bool :=
  p.bytes.head? == some slash

/-- A path resolved against a directory. An absolute path stands for itself. -/
def join (directory p : Path) : Path :=
  if p.isAbsolute then p
  else
    match directory.bytes.getLast? with
    | none => p
    | some last => ⟨directory.bytes ++ (if last = slash then [] else [slash]) ++ p.bytes⟩

/-- The pieces of a sequence between the bytes with one value. -/
def splitAt (b : UInt8) : Bytes → List Bytes
  | [] => [[]]
  | c :: cs =>
    if c = b then [] :: splitAt b cs
    else
      match splitAt b cs with
      | [] => [[c]]
      | piece :: rest => (c :: piece) :: rest

/-- The components of the path: what stands between its slashes, without empty ones and without
those that stay where they are. -/
def components (p : Path) : List Bytes :=
  (splitAt slash p.bytes).filter fun component => component ≠ [] ∧ component ≠ [stop]

end Path

end PlanetServer

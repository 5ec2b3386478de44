import Overseer.Text.Quoted
import Overseer.Text.Utf8

namespace Overseer

open Overseer.Text

-- File names as the system sees them: any bytes. Two spellings name the same
-- place when their components agree, which is what reuse of a loaded library
-- is decided by; the spelling itself is kept for display and for opening.

inductive Component
  | root
  | current
  | parent
  | name (bytes : List UInt8)
deriving DecidableEq

structure Path where
  bytes : List UInt8
deriving DecidableEq

namespace Path

def slash : UInt8 := 47

def dot : UInt8 := 46

def ofText (text : String) : Path := ⟨Utf8.encode text⟩

def isAbsolute (path : Path) : Bool := path.bytes.head? = some slash

def pieces : List UInt8 → List (List UInt8)
  | [] => [[]]
  | byte :: bytes =>
      if byte = slash then [] :: pieces bytes
      else
        match pieces bytes with
        | piece :: rest => (byte :: piece) :: rest
        | [] => [[byte]]

def component? (piece : List UInt8) : Option Component :=
  if piece = [] then none
  else if piece = [dot] then none
  else if piece = [dot, dot] then some .parent
  else some (.name piece)

-- A dot counts only where a relative path begins with it.
def leading? (absolute : Bool) (piece : List UInt8) : Option Component :=
  if !absolute && piece = [dot] then some .current else component? piece

def components (path : Path) : List Component :=
  let root := if path.isAbsolute then [Component.root] else []
  match pieces path.bytes with
  | [] => root
  | first :: rest =>
      root ++ (leading? path.isAbsolute first).toList ++ rest.filterMap component?

def same (a b : Path) : Bool := a.components = b.components

-- The place that a path names when read from a directory. An absolute path
-- stands for itself, and an empty one leaves a closing slash.
def join (directory path : Path) : Path :=
  if path.isAbsolute then path
  else
    match directory.bytes.getLast? with
    | none => path
    | some last =>
        if last = slash then ⟨directory.bytes ++ path.bytes⟩
        else ⟨directory.bytes ++ slash :: path.bytes⟩

def display (path : Path) : String := Utf8.text path.bytes

def quoted (path : Path) : String := Quoted.bytes path.bytes

end Path

end Overseer

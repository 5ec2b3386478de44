import Overseer.Machine.Files

namespace Overseer.Machine

open Overseer.Shell

-- Which file a path leads to, and where a new one would be.

def longestName : Nat := 255

def longestPath : Nat := 4095

def mostLinks : Nat := 40

def placeName (reached : Bytes) : Bytes := if reached.isEmpty then [Path.slash] else reached

-- Walks along the pieces of a path from the directory that was reached. Every
-- piece has to be there, also those that a parent step leaves again. A link at
-- the end may stand for itself.
def walk (files : Files) (follows : Bool) (links : Nat) (reached : Bytes) (pieces : List Bytes) :
    Except FileFault (Bytes × Entry) :=
  match files.find (placeName reached), pieces with
  | none, _ => .error .missing
  | some entry, [] => .ok (placeName reached, entry)
  | some .directory, piece :: rest =>
      if piece = [] || piece = [Path.dot] then walk files follows links reached rest
      else if longestName < piece.length then .error .nameTooLong
      else if piece = [Path.dot, Path.dot] then
        walk files follows links ((reached.reverse.dropWhile (· ≠ Path.slash)).drop 1).reverse rest
      else
        let path := reached ++ Path.slash :: piece
        match files.find path, links with
        | some (.link target), links =>
            if rest.isEmpty && !follows then .ok (path, .link target)
            else
              match links with
              | 0 => .error .tooManyLinks
              | links + 1 =>
                  if target.head? = some Path.slash then
                    walk files follows links [] ((Path.pieces target).drop 1 ++ rest)
                  else walk files follows links reached (Path.pieces target ++ rest)
        | _, links => walk files follows links path rest
  | some _, _ => .error .notDirectory
termination_by (links, pieces.length)

def ownRoot (files : Files) (path : Bytes) : Option (Bytes × Bytes) :=
  files.entries.findSome? fun entry =>
    if entry.1.head? ≠ some Path.slash && entry.1 ≠ somewhere &&
        (entry.1 ++ [Path.slash]).isPrefixOf path then
      some (entry.1, path.drop (entry.1.length + 1))
    else none

def Files.way (files : Files) (path : Bytes) : Bytes × List Bytes :=
  if path.head? = some Path.slash then ([], (Path.pieces path).drop 1)
  else
    match ownRoot files path, files.here with
    | some (root, rest), _ => (root, Path.pieces rest)
    | none, none => (somewhere, Path.pieces path)
    | none, some here =>
        if here.head? = some Path.slash then ([], (Path.pieces here).drop 1 ++ Path.pieces path)
        else
          match ownRoot files (here ++ [Path.slash]) with
          | some (root, rest) => (root, Path.pieces rest ++ Path.pieces path)
          | none => (here, Path.pieces path)

def Files.find? (files : Files) (follows : Bool) (path : Bytes) :
    Except FileFault (Bytes × Entry) :=
  if path.isEmpty then .error .missing
  else if longestPath < path.length then .error .nameTooLong
  else
    let (root, pieces) := files.way path
    walk files follows mostLinks root pieces

def lookupPath (files : Files) (path : Bytes) : Except FileFault Entry :=
  (files.find? true path).map Prod.snd

def splitPath (path : Bytes) : Bytes × Bytes :=
  let path := (path.reverse.dropWhile (· = Path.slash)).reverse
  let name := (path.reverse.takeWhile (· ≠ Path.slash)).reverse
  (path.take (path.length - name.length), name)

-- The directories in which programs are looked for, unless others are set.
def standardPath : Bytes :=
  Text.Utf8.encode "/usr/local/sbin:/usr/local/bin:/usr/sbin:/usr/bin:/sbin:/bin"

-- Where a new file would be that a path leads to, if only its last piece is not
-- there. A link to nothing leads on.
def Files.vacancyWithin (files : Files) : Nat → Bytes → Except FileFault Bytes
  | 0, _ => .error .tooManyLinks
  | links + 1, path => do
      if path.isEmpty then throw .missing
      let (directory, name) := splitPath path
      if longestName < name.length then throw .nameTooLong
      let (place, entry) ← files.find? true (if directory.isEmpty then [Path.dot] else directory)
      if entry ≠ .directory then throw .notDirectory
      if name = [] || name = [Path.dot] || name = [Path.dot, Path.dot] then throw .occupied
      let start := (if place = [Path.slash] then [] else place) ++ [Path.slash]
      match files.find (start ++ name) with
      | some (.link target) =>
          if files.find? true (start ++ name) matches .ok _ then throw .occupied
          else
            files.vacancyWithin links
              (if target.head? = some Path.slash then target else start ++ target)
      | some _ => throw .occupied
      | none => pure (start ++ name)

def Files.vacancy (files : Files) (path : Bytes) : Except FileFault Bytes :=
  files.vacancyWithin mostLinks path

end Overseer.Machine

import Overseer.Machine.Places
import Overseer.Shell.Fields

namespace Overseer.Machine

open Overseer.Shell

-- Fields that stand for the names of files: those that they match as patterns.

def isPattern (field : Field) : Bool :=
  field.any fun mark => mark.active && [42, 63, 91].contains mark.byte

def fieldPieces : Field → List Field
  | [] => [[]]
  | mark :: marks =>
      if mark.byte = Path.slash then [] :: fieldPieces marks
      else
        match fieldPieces marks with
        | piece :: rest => (mark :: piece) :: rest
        | [] => [[mark]]

def namesIn (files : Files) (before : Bytes) : List Bytes :=
  match files.find? true (if before.isEmpty then [Path.dot] else before) with
  | .ok (place, .directory) => files.children place
  | _ => []

-- A name with a dot before it is matched only by a dot.
def matchingNames (files : Files) (before : Bytes) (piece : Field) : List Bytes :=
  let pattern := Pattern.ofMarks piece
  let isHidden (name : Bytes) : Bool := name.head? = some Path.dot
  let names :=
    if piece.head?.any fun mark => mark.byte = Path.dot then
      [Path.dot] :: [Path.dot, Path.dot] :: namesIn files before
    else (namesIn files before).filter fun name => !isHidden name
  names.filter pattern.accepts

def matchingPaths (files : Files) (before : Bytes) : List Field → List Bytes
  | [] => []
  | [last] =>
      if isPattern last then (matchingNames files before last).map (before ++ ·)
      else
        let path := before ++ Field.text last
        if (files.find? false path).toOption.isSome then [path] else []
  | piece :: rest =>
      if isPattern piece then
        (matchingNames files before piece).flatMap fun name =>
          matchingPaths files (before ++ name ++ [Path.slash]) rest
      else matchingPaths files (before ++ Field.text piece ++ [Path.slash]) rest

def Files.matching (files : Files) (field : Field) : List Bytes :=
  if !isPattern field then [Field.text field]
  else
    let found := (matchingPaths files [] (fieldPieces field)).mergeSort
    if found.isEmpty then [Field.text field] else found

end Overseer.Machine

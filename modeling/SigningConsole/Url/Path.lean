import SigningConsole.Url.Basic
/-!
Reading paths: dots stand for directories, and letters of drives stay where they are.

A path is read piece by piece onto the segments that a slash already follows. Two dots drop the
last of these, unless it is the letter of a drive. In a file's path such a letter at the front is
written with a colon.
-/

namespace SigningConsole.Url

open Text

namespace Path

/-- Whether the piece stands for its own directory. -/
def isSingleDot (cs : List Char) : Bool :=
  match cs.map Char.toLower with
  | ['.'] => true
  | ['%', '2', 'e'] => true
  | _ => false

/-- Whether the piece stands for the directory above. -/
def isDoubleDot (cs : List Char) : Bool :=
  match cs.map Char.toLower with
  | ['.', '.'] => true
  | ['.', '%', '2', 'e'] => true
  | ['%', '2', 'e', '.'] => true
  | ['%', '2', 'e', '%', '2', 'e'] => true
  | _ => false

/-- Whether the piece is the letter of a drive. -/
def isDrive : List Char → Bool
  | [c, d] => c.isAlpha && (d == ':' || d == '|')
  | _ => false

/-- Whether the piece is the letter of a drive as it is written in a path, with a colon. -/
def isWrittenDrive (cs : List Char) : Bool := isDrive cs && cs.getLast? == some ':'

/-- Whether the text begins with the letter of a drive: nothing of its piece follows. -/
def startsWithDrive : List Char → Bool
  | a :: b :: rest =>
    isDrive [a, b] &&
    (rest.head?.map fun c => c == '/' || c == '\\' || c == '?' || c == '#').getD true
  | _ => false

/-- The segments without the last; one that begins with the letter of a drive stays. -/
def parent (segs : List String) : List String :=
  if (segs.getLast?.any fun s => startsWithDrive s.toList) then segs else segs.dropLast

/-- The segment of a piece after the segments before it. -/
def segment (file : Bool) (before : List String) (piece : List Char) : String :=
  if file && before.isEmpty && isDrive piece then String.ofList (piece.take 1 ++ [':'])
  else String.ofList (encode inPathSet piece)

/-- Puts the pieces of a path after segments that a slash follows; the last piece
always leaves a segment. -/
def addPieces (file : Bool) (segs : List String) : List (List Char) → List String
  | [] => segs
  | piece :: pieces =>
    let isLast := pieces.isEmpty
    let close (segs : List String) := if isLast then segs ++ [""] else segs
    let segs :=
      if isDoubleDot piece then close (parent segs)
      else if isSingleDot piece then close segs
      else segs ++ [segment file segs piece]
    addPieces file segs pieces

/-- Puts the pieces of a path after a written drive letter that no slash follows. Where the letter
stands first, a slash is put between; elsewhere the first piece goes on with it. -/
def addPiecesToDrive (before : List String) (drive : String) : List (List Char) → List String
  | [] => before ++ [drive]
  | piece :: pieces =>
    if before.isEmpty then addPieces true [drive] (piece :: pieces)
    else if isDoubleDot piece then addPieces true (before ++ [drive]) pieces
    else if isSingleDot piece then addPieces true (before ++ [drive])
      (if pieces.isEmpty then [[]] else pieces)
    else addPieces true (before ++ [drive ++ String.ofList (encode inPathSet piece)]) pieces

/-- A file's path keeps no empty segments at its front. -/
def trimmed (segs : List String) : List String :=
  match segs.dropWhile String.isEmpty with
  | [] => [""]
  | segs => segs

/-- The path with a slash at its end; a file's is read again. -/
def asDirectory (scheme : String) : Path → Path
  | segments segs =>
    if segs.getLast? = some "" then segments segs
    else segments (addPieces (scheme == "file") [] (segs.map String.toList ++ [[]]))
  | rootless text => if text.endsWith "/" then rootless text else rootless (text ++ "/")

end Path

/-- The URL with a path that ends in a slash. -/
def asDirectory (u : Url) : Url := { u with path := u.path.asDirectory u.scheme }

end SigningConsole.Url

import DueDispatch.Url.Basic

/-!
# DueDispatch — paths of URLs

A path is a list of segments. `resolve` follows the dots in it: one dot stands
for the directory itself, two for the one above. A segment that looks like the
letter of a drive is never left for the one above.
-/

namespace DueDispatch.Url

/-- How a scheme lays out its URLs. -/
inductive Layout
  /-- A scheme of which nothing is known. -/
  | general
  /-- A scheme of the web, which needs a host. -/
  | web
  | file
deriving DecidableEq

/-- The layout of a scheme. -/
def Layout.of (scheme : String) : Layout :=
  if ["http", "https", "ws", "wss", "ftp"].contains scheme then .web
  else if scheme = "file" then .file
  else .general

/-- Whether a character separates segments. A backslash does where the layout is
known. -/
def Layout.isSeparator (layout : Layout) (c : Char) : Bool :=
  c == '/' || (layout != .general && c == '\\')

/-- Whether a path segment stands for the directory itself. -/
def isSingleDot (segment : List Char) : Bool :=
  [['.'], ['%', '2', 'e']].contains (segment.map Char.toLower)

/-- Whether a path segment stands for the directory above. -/
def isDoubleDot (segment : List Char) : Bool :=
  [['.', '.'], ['%', '2', 'e', '.'], ['.', '%', '2', 'e'],
    ['%', '2', 'e', '%', '2', 'e']].contains (segment.map Char.toLower)

/-- Whether a text is a letter and a mark, as drives are named. -/
def isDrive (cs : List Char) : Bool :=
  match cs with
  | [letter, mark] => letter.isAlpha && (mark == ':' || mark == '|')
  | _ => false

/-- Whether a segment looks like a drive, up to a backslash in it. -/
def isDriveLike (segment : List Char) : Bool := isDrive (segment.takeWhile (· != '\\'))

/-- The directory above. -/
def above (done : List (List Char)) : List (List Char) :=
  if done.getLast?.any isDriveLike then done else done.dropLast

/-- The drive at the beginning of the first segment of a file's path is a segment
of its own. Returns the segments done and the one to go on with. -/
def splitDrive (layout : Layout) (done : List (List Char)) (segment : List Char) :
    List (List Char) × List Char :=
  match layout, done, segment with
  | .file, [], letter :: ':' :: c :: rest =>
    if letter.isAlpha then ([[letter, ':']], c :: rest) else ([], segment)
  | _, _, _ => (done, segment)

/-- Follows path segments from a directory. One that names a directory at the
end leaves an empty segment. -/
def resolve (layout : Layout) (done : List (List Char)) :
    List (List Char) → List (List Char)
  | [] => done
  | segment :: rest =>
    let (done, segment) := splitDrive layout done segment
    if isDoubleDot segment then
      resolve layout (if rest.isEmpty then above done ++ [[]] else above done) rest
    else if isSingleDot segment then
      resolve layout (if rest.isEmpty then done ++ [[]] else done) rest
    else resolve layout (done ++ [segment]) rest

/-- The segments of an absolute path, whose first separator may be missing. -/
def readSegments (layout : Layout) (path : List Char) : List (List Char) :=
  let marked := path.map fun c => if layout.isSeparator c then '/' else c
  resolve layout [] (pieces '/' (if marked.head? = some '/' then marked.drop 1 else marked))

end DueDispatch.Url

import MetricWatch.Address.Escape

/-!
Paths: segments behind slashes, without those that only say where to go. A segment that names a
drive, which is a letter and a colon, is never left again, and at the beginning of the path to a
file it is written in one way.
-/

namespace MetricWatch.Address

/-- Characters that have no place anywhere in an address. -/
def isBreak (c : Char) : Bool := c = '\t' || c = '\n' || c = '\r'

/-- A text without the characters that have no place in an address. -/
def unbroken (cs : List Char) : List Char := cs.filter (!isBreak ·)

/-- How a path is read. -/
inductive PathStyle where
  /-- The path of a known scheme, in which slashes of either kind are the same. -/
  | known
  /-- The path to a file. -/
  | file
  /-- The path of an unknown scheme. -/
  | unknown
  deriving DecidableEq

/-- Whether a character is a slash of either kind. -/
def isSlash (c : Char) : Bool := c = '/' || c = '\\'

/-- Whether a character stands between segments. -/
def PathStyle.separates (style : PathStyle) (c : Char) : Bool :=
  if style = .unknown then c = '/' else isSlash c

/-- Whether a segment stands for its own directory. -/
def isDot (segment : List Char) : Bool :=
  let lower := segment.map Char.toLower
  lower = ".".toList || lower = "%2e".toList

/-- Whether a segment stands for the directory above. -/
def isDoubleDot (segment : List Char) : Bool :=
  let lower := segment.map Char.toLower
  lower = "..".toList || lower = ".%2e".toList || lower = "%2e.".toList ||
    lower = "%2e%2e".toList

/-- Whether a text is the name of a drive. -/
def isDrive : List Char → Bool
  | [letter, mark] => letter.isAlpha && (mark = ':' || mark = '|')
  | _ => false

/-- Whether a segment begins with the name of a drive and holds nothing more before a slash. -/
def beginsWithDrive (segment : List Char) : Bool := isDrive (segment.takeWhile (· ≠ '\\'))

/-- The segments above the last one, which is the first of the list, unless that is a drive. -/
def leave : List (List Char) → List (List Char)
  | [] => []
  | last :: above => if beginsWithDrive last then last :: above else above

/-- The drive that a segment begins with and what follows it, if breaks stand between the two. -/
def partedDrive? (segment : List Char) : Option (List Char × List Char) :=
  match segment.span (· ≠ ':') with
  | (letter, mark :: rest) =>
    let drive := unbroken letter ++ [mark]
    if isDrive drive && rest.head?.any isBreak && !(unbroken rest).isEmpty then
      some (drive, unbroken rest)
    else none
  | (_, []) => none

/-- Enters a segment. The drive that a path to a file begins with is written with a colon, and what
breaks part from it is a segment of its own. -/
def enter (style : PathStyle) (above : List (List Char)) (segment : List Char) :
    List (List Char) :=
  if style = .file && above.isEmpty then
    match partedDrive? segment, unbroken segment with
    | some (drive, rest), _ => [rest, drive]
    | none, [letter, mark] => if isDrive [letter, mark] then [[letter, ':']] else [[letter, mark]]
    | none, whole => [whole]
  else unbroken segment :: above

/-- The segments, last first, after one more that a slash follows. -/
def step (style : PathStyle) (above : List (List Char)) (segment : List Char) :
    List (List Char) :=
  if isDoubleDot (unbroken segment) then leave above
  else if isDot (unbroken segment) then above
  else enter style above segment

/-- The segments, last first, after the last one. A directory ends with a slash. -/
def finish (style : PathStyle) (above : List (List Char)) (segment : List Char) :
    List (List Char) :=
  if isDoubleDot (unbroken segment) || isDot (unbroken segment) then
    [] :: step style above segment
  else enter style above segment

/-- Segments without those that only say where to go; `above` holds the ones before, last first. -/
def resolve (style : PathStyle) (above : List (List Char)) : List (List Char) → List (List Char)
  | [] => above.reverse
  | [last] => (finish style above last).reverse
  | segment :: rest => resolve style (step style above segment) rest

/-- The segments of a path that begins behind a slash. Those of a file begin with one that is not
empty, if there is one. -/
def pathSegments (style : PathStyle) (cs : List Char) : List (List Char) :=
  let segments := resolve style [] (cs.splitOnP style.separates)
  if style = .file then
    match segments.dropWhile (·.isEmpty) with
    | [] => [[]]
    | named => named
  else segments

/-- A path that begins behind a slash, as it is written. -/
def pathChars (style : PathStyle) (cs : List Char) : List Char :=
  (pathSegments style cs).flatMap fun segment => '/' :: escape pathReserved segment

/-- Whether segments on the way to a file enter a drive from the top. -/
def enterDrive (above : List (List Char)) : List (List Char) → Bool
  | [] => false
  | segment :: rest =>
    (above.isEmpty && isDrive (unbroken segment)) || enterDrive (step .file above segment) rest

/-- Whether the path to a file leads over a drive. -/
def leadsOverDrive (cs : List Char) : Bool := enterDrive [] (cs.splitOnP isSlash)

end MetricWatch.Address

import RecordPipeline.Moment.Basic
import RecordPipeline.Moment.Pattern.Basic
set_option autoImplicit false

namespace RecordPipeline.DatePattern

abbrev Spelling := List (Char × Char)

/-- The spellings of what a letter stands for, in the order in which they are tried. A blank counts
as a zero. -/
def spellings : Char → List Spelling
  | 'Y' => [[('0', '9'), ('0', '9'), ('0', '9'), ('0', '9')]]
  | 'm' => [[('1', '1'), ('0', '2')], [('0', '0'), ('1', '9')], [('1', '9')]]
  | 'd' => [[('3', '3'), ('0', '1')], [('1', '2'), ('0', '9')], [('0', '0'), ('1', '9')], [('1', '9')],
      [(' ', ' '), ('1', '9')]]
  | 'H' => [[('2', '2'), ('0', '3')], [('0', '1'), ('0', '9')], [('0', '9')]]
  | 'M' => [[('0', '5'), ('0', '9')], [('0', '9')]]
  | 'S' => [[('6', '6'), ('0', '1')], [('0', '5'), ('0', '9')], [('0', '9')]]
  | _ => []

def takeSpelling : Spelling → List Char → Option (List Char × List Char)
  | [], cs => some ([], cs)
  | _ :: _, [] => none
  | (first, last) :: others, c :: cs =>
    if first ≤ c && c ≤ last then (takeSpelling others cs).map fun (ds, rest) => (c :: ds, rest) else none

/-- The numbers of the slots by their letters, and what is left of the text. Of the spellings of a
slot the first one counts behind which the rest of the pattern is found; the letters between the
slots may be of either case. -/
def matchPieces : List Piece → List Char → Option (List (Char × Nat) × List Char)
  | [], cs => some ([], cs)
  | .literal _ :: _, [] => none
  | .literal mark :: ps, c :: cs => if c.toLower = mark.toLower then matchPieces ps cs else none
  | .slot s :: ps, cs => do
    let letter ← s.letter
    (spellings letter).findSome? fun spelling => do
      let (ds, rest) ← takeSpelling spelling cs
      let (found, rest) ← matchPieces ps rest
      return ((letter, Numeral.value ds) :: found, rest)

def read? (pattern : String) (cs : List Char) : Option Moment := do
  let (found, rest) ← matchPieces (pieces pattern.toList) cs
  let part (letter : Char) (usual : Nat) := (found.lookup letter).getD usual
  if rest.isEmpty then
    Moment.of? (part 'Y' 1900) (part 'm' 1) (part 'd' 1) (part 'H' 0) (part 'M' 0) (part 'S' 0) 0
  else none

end RecordPipeline.DatePattern

import RecordPipeline.Text.Numeral
set_option autoImplicit false

/-!
Date patterns. A percent sign starts a slot, which ends in a letter that tells the part of a date or
time to write; flags, a width and a variant may stand in between. All other text stands for itself.
-/

namespace RecordPipeline.DatePattern

inductive Filler where
  | zeros
  | blanks
  | nothing
  deriving DecidableEq

inductive Variant where
  | eras
  | digits
  deriving DecidableEq

structure Slot where
  filler : Option Filler
  capitals : Bool
  otherCase : Bool
  width : Nat
  variant : Option Variant
  letter : Option Char
  source : List Char
  deriving DecidableEq

inductive Piece where
  | literal (c : Char)
  | slot (s : Slot)
  deriving DecidableEq

namespace Slot

def isFlag (c : Char) : Bool := c = '_' || c = '-' || c = '0' || c = '^' || c = '#'

def fillerOf? : Char → Option Filler
  | '0' => some .zeros
  | '_' => some .blanks
  | '-' => some .nothing
  | _ => none

def variantOf? : Char → Option Variant
  | 'E' => some .eras
  | 'O' => some .digits
  | _ => none

def readVariant : List Char → Option Variant × List Char
  | c :: cs => if (variantOf? c).isSome then (variantOf? c, cs) else (none, c :: cs)
  | [] => (none, [])

/-- Reads what follows the percent sign. Of several fillers the last one counts. -/
def read (cs : List Char) : Slot × List Char :=
  let (flags, afterFlags) := cs.span isFlag
  let (digits, afterWidth) := afterFlags.span Char.isDigit
  let (variant, afterVariant) := readVariant afterWidth
  let rest := afterVariant.drop 1
  let slot : Slot :=
    { filler := (flags.filterMap fillerOf?).getLast?
      capitals := flags.contains '^'
      otherCase := flags.contains '#'
      width := Numeral.value digits
      variant
      letter := afterVariant.head?
      source := '%' :: cs.take (cs.length - rest.length) }
  (slot, rest)

end Slot

def readPieces : Nat → List Char → List Piece
  | 0, _ => []
  | _ + 1, [] => []
  | fuel + 1, c :: cs =>
    if c = '%' then
      let (slot, rest) := Slot.read cs
      .slot slot :: readPieces fuel rest
    else .literal c :: readPieces fuel cs

def pieces (pattern : List Char) : List Piece := readPieces pattern.length pattern

end RecordPipeline.DatePattern

import RecordPipeline.Text.Numeral
set_option autoImplicit false

/-!
Message templates. A percent sign starts a slot, which takes an argument and says how it is written; all
other text stands for itself. A slot may name an entry of a record, and ends in a letter.
-/

namespace RecordPipeline.Journal.Template

inductive Size where
  | absent
  | given (n : Nat)
  | argument
  deriving DecidableEq

structure Slot where
  key : Option String
  left : Bool
  plus : Bool
  blank : Bool
  alternate : Bool
  zeros : Bool
  width : Size
  places : Size
  letter : Option (Char × Nat)
  deriving DecidableEq

inductive Piece where
  | literal (cs : List Char)
  | slot (s : Slot)
  | unclosedKey
  deriving DecidableEq

namespace Slot

def readKey? : Nat → List Char → Option (List Char × List Char)
  | _, [] => none
  | depth, c :: cs =>
    if c = ')' && depth = 0 then some ([], cs)
    else
      let depth := if c = '(' then depth + 1 else if c = ')' then depth - 1 else depth
      (readKey? depth cs).map fun r => (c :: r.1, r.2)

def isFlag (c : Char) : Bool := c = '-' || c = '+' || c = ' ' || c = '#' || c = '0'

def readSize : List Char → Size × List Char
  | '*' :: cs => (.argument, cs)
  | cs =>
    let (ds, rest) := cs.span Char.isDigit
    (if ds.isEmpty then .absent else .given (Numeral.value ds), rest)

def readPlaces : List Char → Size × List Char
  | '.' :: cs =>
    match readSize cs with
    | (.absent, rest) => (.given 0, rest)
    | found => found
  | cs => (.absent, cs)

/-- One of three letters may stand in front of the last one and means nothing. -/
def skipLength : List Char → List Char
  | 'h' :: cs | 'l' :: cs | 'L' :: cs => cs
  | cs => cs

def read (total : Nat) (key : Option String) (cs : List Char) : Slot × List Char :=
  let (flags, cs) := cs.span isFlag
  let (width, cs) := readSize cs
  let (places, cs) := readPlaces cs
  let cs := skipLength cs
  let slot : Slot :=
    { key
      left := flags.contains '-'
      plus := flags.contains '+'
      blank := flags.contains ' '
      alternate := flags.contains '#'
      zeros := flags.contains '0'
      width
      places
      letter := cs.head?.map fun c => (c, total - cs.length) }
  (slot, cs.drop 1)

end Slot

def readPiece (total : Nat) : List Char → Piece × List Char
  | '%' :: '%' :: cs => (.literal ['%'], cs)
  | '%' :: '(' :: cs =>
    match Slot.readKey? 0 cs with
    | none => (.unclosedKey, [])
    | some (key, rest) =>
      let (slot, rest) := Slot.read total (some (String.ofList key)) rest
      (.slot slot, rest)
  | '%' :: cs =>
    let (slot, rest) := Slot.read total none cs
    (.slot slot, rest)
  | cs =>
    let (literal, rest) := cs.span (· ≠ '%')
    (.literal literal, rest)

/-- Each piece takes at least one character, so a template has no more pieces than characters. -/
def readPieces (total : Nat) : Nat → List Char → List Piece
  | 0, _ => []
  | _ + 1, [] => []
  | fuel + 1, cs =>
    let (piece, rest) := readPiece total cs
    piece :: readPieces total fuel rest

def pieces (template : List Char) : List Piece :=
  readPieces template.length template.length template

end RecordPipeline.Journal.Template

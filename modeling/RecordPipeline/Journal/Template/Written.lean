import RecordPipeline.Double.Text
import RecordPipeline.Journal.Template.Basic
set_option autoImplicit false

namespace RecordPipeline.Journal.Template

/-- A number taken apart for padding: its sign, the mark of its base, and the rest. -/
structure Written where
  sign : List Char := []
  mark : List Char := []
  body : List Char

namespace Written

def signOf (s : Slot) (negative : Bool) : List Char :=
  if negative then ['-'] else if s.plus then ['+'] else if s.blank then [' '] else []

def digitsFor (letter : Char) (n : Nat) : List Char :=
  match letter with
  | 'o' => Nat.toDigits 8 n
  | 'x' => Nat.toDigits 16 n
  | 'X' => (Nat.toDigits 16 n).map Char.toUpper
  | _ => Numeral.digits n

def isBased (letter : Char) : Bool := letter = 'o' || letter = 'x' || letter = 'X'

def whole (s : Slot) (letter : Char) (places : Nat) (n : Int) : Written :=
  let ds := digitsFor letter n.natAbs
  { sign := signOf s (n < 0)
    mark := if s.alternate && isBased letter then ['0', letter] else []
    body := List.replicate (places - ds.length) '0' ++ ds }

def significant (count num den : Nat) : List Char × Int :=
  if num = 0 then (List.replicate count '0', 0)
  else
    let lead := Figures.floorLog10 num den
    let shift := lead - ((count : Int) - 1)
    let ds := Numeral.digits
      (Double.roundHalfEven (num * 10 ^ (-shift).toNat) (den * 10 ^ shift.toNat))
    if ds.length ≤ count then (ds, lead) else (ds.take count, lead + 1)

def pointed (alternate : Bool) (tail : List Char) : List Char :=
  if tail.isEmpty && !alternate then [] else '.' :: tail

def scientific (alternate : Bool) (ds : List Char) (lead : Int) : List Char :=
  ds.take 1 ++ pointed alternate (ds.drop 1) ++ 'e' :: Figures.signedExponent 2 lead

def trimZeros (alternate : Bool) (ds : List Char) : List Char :=
  if alternate then ds else (ds.reverse.dropWhile (· = '0')).reverse

/-- Exponents from -4 up to the number of digits are left out. -/
def general (alternate : Bool) (count num den : Nat) : List Char :=
  let (ds, lead) := significant count num den
  if lead < -4 || (count : Int) ≤ lead then
    scientific alternate (ds.take 1 ++ trimZeros alternate (ds.drop 1)) lead
  else if lead < 0 then
    '0' :: '.' :: (List.replicate (-lead - 1).toNat '0' ++ trimZeros alternate ds)
  else
    ds.take (lead.toNat + 1) ++ pointed alternate (trimZeros alternate (ds.drop (lead.toNat + 1)))

def magnitude (alternate : Bool) (letter : Char) (places : Nat) : Double → List Char
  | .finite _ m q h =>
    let (num, den) := Double.ratio m q
    match letter with
    | 'f' =>
      Double.fixed places (.finite false m q h) ++ (if places = 0 && alternate then ['.'] else [])
    | 'e' =>
      let (ds, lead) := significant (places + 1) num den
      scientific alternate ds lead
    | _ => general alternate (max places 1) num den
  | .infinite _ => "inf".toList
  | .nan => "nan".toList

def real (s : Slot) (letter : Char) (places : Nat) (d : Double) : Written :=
  let body := magnitude s.alternate letter.toLower places d
  { sign := signOf s d.isNegative
    body := if letter.isUpper then body.map Char.toUpper else body }

def pad (left zeros : Bool) (width : Nat) (w : Written) : List Char :=
  let fill := width - (w.sign.length + w.mark.length + w.body.length)
  if left then w.sign ++ w.mark ++ w.body ++ List.replicate fill ' '
  else if zeros then w.sign ++ w.mark ++ List.replicate fill '0' ++ w.body
  else List.replicate fill ' ' ++ w.sign ++ w.mark ++ w.body

end Written

end RecordPipeline.Journal.Template

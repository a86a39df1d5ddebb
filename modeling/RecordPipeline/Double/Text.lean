import RecordPipeline.Double.Shortest
set_option autoImplicit false

namespace RecordPipeline

/-- How figures are laid out. -/
structure Figures.Layout where
  positionalFrom : Int
  positionalBelow : Int
  wholeMark : Bool
  exponentDigits : Nat

def Figures.Layout.plain : Figures.Layout := ⟨-4, 16, true, 2⟩

/-- Parts of complex numbers carry no mark of wholeness. -/
def Figures.Layout.part : Figures.Layout := ⟨-4, 16, false, 2⟩

namespace Figures

def signedExponent (width : Nat) (e : Int) : List Char :=
  (if e < 0 then '-' else '+') :: Numeral.padded width e.natAbs

def positional (layout : Layout) (ds : List Char) (point : Int) : List Char :=
  if point ≤ 0 then
    '0' :: '.' :: (List.replicate (-point).toNat '0' ++ ds)
  else if (ds.length : Int) ≤ point then
    ds ++ List.replicate (point.toNat - ds.length) '0' ++
      (if layout.wholeMark then ['.', '0'] else [])
  else ds.take point.toNat ++ '.' :: ds.drop point.toNat

def scientific (layout : Layout) (ds : List Char) (lead : Int) : List Char :=
  let tail := ds.drop 1
  ds.take 1 ++ (if tail.isEmpty then [] else '.' :: tail) ++
    'e' :: signedExponent layout.exponentDigits lead

def render (layout : Layout) (f : Figures) : List Char :=
  let ds := Numeral.digits f.coefficient
  let lead := f.exponent + ds.length - 1
  if layout.positionalFrom ≤ lead && lead < layout.positionalBelow then
    positional layout ds (lead + 1)
  else scientific layout ds lead

end Figures

namespace Double

def figures (significand : Nat) (exponent : Int) : Figures :=
  if significand = 0 then ⟨0, 0⟩ else Figures.shortest significand exponent

def render (layout : Figures.Layout) : Double → List Char
  | .finite negative m q _ =>
    (if negative then ['-'] else []) ++ (figures m q).render layout
  | .infinite negative => (if negative then ['-'] else []) ++ "inf".toList
  | .nan => "nan".toList

def text (d : Double) : String := String.ofList (d.render .plain)

def fixed (places : Nat) : Double → List Char
  | .finite negative m q _ =>
    let n := roundHalfEven ((ratio m q).1 * 10 ^ places) (ratio m q).2
    let ds := Numeral.padded (places + 1) n
    let point := ds.length - places
    (if negative then ['-'] else []) ++ ds.take point ++
      (if places = 0 then [] else '.' :: ds.drop point)
  | d => d.render .plain

end Double

end RecordPipeline

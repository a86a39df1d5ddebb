import RecordPipeline.Double.Text
import RecordPipeline.Value.Basic
set_option autoImplicit false

namespace RecordPipeline

namespace Value

/-- The real part is left out when it is the positive zero; the imaginary part carries its sign. -/
def complexText (re im : Double) : String :=
  let i := im.render .part
  if re = Double.zero false then String.ofList (i ++ ['j'])
  else
    let sign := if im.isNegative then [] else ['+']
    String.ofList ('(' :: (re.render .part ++ sign ++ i ++ ['j', ')']))

def fractionText (r : Rat) : Except ValueFault String :=
  if r.den = 1 then Numeral.write r.num
  else do return (← Numeral.write r.num) ++ "/" ++ (← Numeral.write r.den)

def enclosed (opening : String) (parts : List String) (closing : String) : String :=
  opening ++ ", ".intercalate parts ++ closing

def tupleText : List String → String
  | [part] => "(" ++ part ++ ",)"
  | parts => enclosed "(" parts ")"

mutual

def shown : Value → Except ValueFault String
  | .null => .ok "None"
  | .bool b => .ok (if b then "True" else "False")
  | .text s => .ok (Text.quoted s)
  | .int n => Numeral.write n
  | .float d => .ok d.text
  | .decimal d => .ok ("Decimal('" ++ d.text ++ "')")
  | .fraction r => do
    return "Fraction(" ++ (← Numeral.write r.num) ++ ", " ++ (← Numeral.write r.den) ++ ")"
  | .complex re im => .ok (complexText re im)
  | .bytes bs => .ok (Text.quotedBytes bs)
  | .list xs => do return enclosed "[" (← shownAll xs) "]"
  | .tuple xs => do return tupleText (← shownAll xs)
  | .record fs => do return enclosed "\x7b" (← shownFields fs) "\x7d"
  | .table _ _ => .ok "<table>"
  | .unknown type => .ok ("<" ++ type.name ++ ">")

def shownAll : List Value → Except ValueFault (List String)
  | [] => .ok []
  | x :: xs => do return (← shown x) :: (← shownAll xs)

def shownFields : List (Value × Value) → Except ValueFault (List String)
  | [] => .ok []
  | (k, v) :: fs => do return ((← shown k) ++ ": " ++ (← shown v)) :: (← shownFields fs)

end

def plain : Value → Except ValueFault String
  | .text s => .ok s
  | .decimal d => .ok d.text
  | .fraction r => fractionText r
  | v => v.shown

end Value

end RecordPipeline

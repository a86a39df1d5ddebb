import RecordPipeline.Json.Quoted
import RecordPipeline.Value.Text
set_option autoImplicit false

/-!
Values as JSON on one line. Tuples are written as arrays; a value that JSON has no form for is written
as its text. Keys that are numbers, booleans or null become texts, and no others are keys.
-/

namespace RecordPipeline.Json

def floatText : Double → List Char
  | .nan => "NaN".toList
  | .infinite negative => (if negative then ['-'] else []) ++ "Infinity".toList
  | d => d.render .plain

def boolText (b : Bool) : List Char := (if b then "true" else "false").toList

def keyText : Value → Except ValueFault (List Char)
  | .text s => .ok s.toList
  | .null => .ok "null".toList
  | .bool b => .ok (boolText b)
  | .int n => do return (← Numeral.write n).toList
  | .float d => .ok (floatText d)
  | v => .error (.notAKey v.typeLabel)

def separated (parts : List (List Char)) : List Char := [',', ' '].intercalate parts

mutual

def encodeChars : Value → Except ValueFault (List Char)
  | .null => .ok "null".toList
  | .bool b => .ok (boolText b)
  | .text s => .ok (quotedChars s.toList)
  | .int n => do return (← Numeral.write n).toList
  | .float d => .ok (floatText d)
  | .list xs | .tuple xs => do return '[' :: (separated (← encodeItems xs) ++ [']'])
  | .record fs => do return '\x7b' :: (separated (← encodeMembers fs) ++ ['\x7d'])
  | v => do return quotedChars (← v.plain).toList

def encodeItems : List Value → Except ValueFault (List (List Char))
  | [] => .ok []
  | x :: xs => do return (← encodeChars x) :: (← encodeItems xs)

def encodeMembers : List (Value × Value) → Except ValueFault (List (List Char))
  | [] => .ok []
  | (k, v) :: fs => do
    let key := quotedChars (← keyText k)
    return (key ++ ':' :: ' ' :: (← encodeChars v)) :: (← encodeMembers fs)

end

/-- Values may be nested this deep where letters are printed. -/
def encodingLimit : Nat := 979

def encode (v : Value) : Except ValueFault String :=
  if encodingLimit < v.depth then .error .tooDeepToEncode else (encodeChars v).map String.ofList

end RecordPipeline.Json

import RecordPipeline.Json.Fault
import RecordPipeline.Text.Quoted
set_option autoImplicit false

/-!
JSON texts in ASCII: characters outside printable ASCII are written as escapes of their UTF-16 code
units. Reading takes every escape and joins the two halves of a surrogate pair; half a pair on its
own is refused.
-/

namespace RecordPipeline.Json

def shortEscapes : List (Char × Char) :=
  [('"', '"'), ('\\', '\\'), ('n', '\n'), ('r', '\r'), ('t', '\t'), ('f', '\x0c'), ('b', '\x08'),
   ('/', '/')]

def isPlain (c : Char) : Bool := 0x20 ≤ c.toNat && c.toNat < 0x7f

def units (c : Char) : List Nat :=
  if c.toNat < 0x10000 then [c.toNat]
  else [0xd800 + (c.toNat - 0x10000) / 0x400, 0xdc00 + (c.toNat - 0x10000) % 0x400]

def unitEscape (u : Nat) : List Char := '\\' :: 'u' :: Text.hex 4 u

def escapeChar (c : Char) : List Char :=
  if c = '"' then ['\\', '"']
  else if c = '\\' then ['\\', '\\']
  else if isPlain c then [c]
  else match shortEscapes.find? fun e => e.2 = c with
    | some e => ['\\', e.1]
    | none => (units c).flatMap unitEscape

def quotedChars (cs : List Char) : List Char := '"' :: (cs.flatMap escapeChar ++ ['"'])

def hexDigit? (c : Char) : Option Nat :=
  if c.isDigit then some (c.toNat - '0'.toNat)
  else if 'a' ≤ c && c ≤ 'f' then some (c.toNat - 'a'.toNat + 10)
  else if 'A' ≤ c && c ≤ 'F' then some (c.toNat - 'A'.toNat + 10)
  else none

inductive TextState where
  | plain
  | escape (backslash : List Char)
  | code (missing unit : Nat) (letter : List Char)

/-- Reads up to the closing quote. The result holds code points, of which an escape may give half a
surrogate pair, and what follows the quote. A code has four digits, and something follows them. -/
def readUnits (opening : List Char) : TextState → List Char → Except Stop (List Nat × List Char)
  | _, [] => .error (.at .unterminatedText opening)
  | .plain, c :: cs =>
    if c = '"' then .ok ([], cs)
    else if c = '\\' then readUnits opening (.escape (c :: cs)) cs
    else if c.toNat < 0x20 then .error (.at .controlCharacter (c :: cs))
    else (readUnits opening .plain cs).map fun r => (c.toNat :: r.1, r.2)
  | .escape backslash, c :: cs =>
    if c = 'u' then
      if (cs.drop 4).isEmpty then .error (.at .codeEscape (c :: cs))
      else readUnits opening (.code 4 0 (c :: cs)) cs
    else match shortEscapes.lookup c with
      | some meant => (readUnits opening .plain cs).map fun r => (meant.toNat :: r.1, r.2)
      | none => .error (.at .escape backslash)
  | .code missing unit letter, c :: cs =>
    match hexDigit? c with
    | none => .error (.at .codeEscape letter)
    | some d =>
      if missing ≤ 1 then
        (readUnits opening .plain cs).map fun r => ((16 * unit + d) :: r.1, r.2)
      else readUnits opening (.code (missing - 1) (16 * unit + d) letter) cs

def isHigh (u : Nat) : Bool := 0xd800 ≤ u && u < 0xdc00

def isLow (u : Nat) : Bool := 0xdc00 ≤ u && u < 0xe000

def ofUnit? (u : Nat) : Option Char := if isHigh u || isLow u then none else some (Char.ofNat u)

def ofUnits? : List Nat → Option (List Char)
  | [] => some []
  | [u] => return [← ofUnit? u]
  | u :: v :: us =>
    if isHigh u && isLow v then
      return Char.ofNat (0x10000 + (u - 0xd800) * 0x400 + (v - 0xdc00)) :: (← ofUnits? us)
    else return (← ofUnit? u) :: (← ofUnits? (v :: us))

def readText (opening cs : List Char) : Except Stop (String × List Char) := do
  let (us, rest) ← readUnits opening .plain cs
  match ofUnits? us with
  | some text => return (String.ofList text, rest)
  | none => throw .unpaired

end RecordPipeline.Json

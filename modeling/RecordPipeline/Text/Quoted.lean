import RecordPipeline.Text.Numeral
import RecordPipeline.Text.Printable
set_option autoImplicit false

namespace RecordPipeline.Text

def hex (width n : Nat) : List Char :=
  let ds := Nat.toDigits 16 n
  List.replicate (width - ds.length) '0' ++ ds

def codeEscape (code : Nat) : List Char :=
  if code < 0x100 then '\\' :: 'x' :: hex 2 code
  else if code < 0x10000 then '\\' :: 'u' :: hex 4 code
  else '\\' :: 'U' :: hex 8 code

def quotedChar (quote c : Char) : List Char :=
  if c = quote || c = '\\' then ['\\', c]
  else if c = '\n' then ['\\', 'n']
  else if c = '\r' then ['\\', 'r']
  else if c = '\t' then ['\\', 't']
  else if isPrintable c then [c]
  else codeEscape c.toNat

/-- The quote that needs the fewer escapes, single ones preferred. -/
def quoteFor (cs : List Char) : Char :=
  if cs.contains '\x27' && !cs.contains '"' then '"' else '\x27'

def quotedChars (cs : List Char) : List Char :=
  quoteFor cs :: (cs.flatMap (quotedChar (quoteFor cs)) ++ [quoteFor cs])

def quoted (s : String) : String := String.ofList (quotedChars s.toList)

def quotedByte (quote : Char) (b : UInt8) : List Char :=
  let c := Char.ofNat b.toNat
  if c = quote || c = '\\' then ['\\', c]
  else if c = '\n' then ['\\', 'n']
  else if c = '\r' then ['\\', 'r']
  else if c = '\t' then ['\\', 't']
  else if b < 0x20 || 0x7f ≤ b then codeEscape b.toNat
  else [c]

def quotedBytes (bs : List UInt8) : String :=
  let quote := quoteFor (bs.map fun b => Char.ofNat b.toNat)
  String.ofList ('b' :: quote :: (bs.flatMap (quotedByte quote) ++ [quote]))

end RecordPipeline.Text

import RecordPipeline.Double.Literal
import RecordPipeline.Json.Quoted
import RecordPipeline.Value.Equal
set_option autoImplicit false

/-!
Reading JSON. Arrays become lists and objects records, in which a key that comes again keeps its place
and takes the later value. Numerals with a fraction or an exponent become binary64 numbers, all others
whole numbers; `NaN`, `Infinity` and `-Infinity` are values.
-/

namespace RecordPipeline.Json

def isSpace (c : Char) : Bool := c = ' ' || c = '\t' || c = '\n' || c = '\r'

def skipSpace (cs : List Char) : List Char := cs.dropWhile isSpace

def after? (word cs : List Char) : Option (List Char) :=
  if word.isPrefixOf cs then some (cs.drop word.length) else none

def words : List (String × Value) :=
  [("null", .null), ("true", .bool true), ("false", .bool false), ("NaN", .float .nan),
   ("Infinity", .float (.infinite false)), ("-Infinity", .float (.infinite true))]

def readWord? (cs : List Char) : Option (Value × List Char) :=
  words.findSome? fun w => (after? w.1.toList cs).map fun rest => (w.2, rest)

def readWhole? : List Char → Option (List Char × List Char)
  | [] => none
  | c :: cs =>
    if c = '0' then some (['0'], cs)
    else if c.isDigit then some ((c :: cs).span Char.isDigit)
    else none

def readFraction (cs : List Char) : List Char × List Char :=
  match cs with
  | '.' :: rest =>
    let (ds, rest) := rest.span Char.isDigit
    if ds.isEmpty then ([], cs) else (ds, rest)
  | _ => ([], cs)

/-- An exponent mark with digits after it; without digits it does not belong to the numeral. -/
def readExponent (cs : List Char) : Option Int × List Char :=
  match cs with
  | mark :: rest =>
    if mark = 'e' || mark = 'E' then
      let (negative, rest) := Literal.readSign rest
      let (ds, rest) := rest.span Char.isDigit
      if ds.isEmpty then (none, cs)
      else (some (if negative then -(Numeral.value ds : Int) else Numeral.value ds), rest)
    else (none, cs)
  | [] => (none, [])

def readMinus (cs : List Char) : Bool × List Char :=
  match cs with
  | '-' :: rest => (true, rest)
  | _ => (false, cs)

def readNumber (cs : List Char) : Except Stop (Value × List Char) :=
  let (negative, unsigned) := readMinus cs
  match readWhole? unsigned with
  | none => .error (.at .noValue cs)
  | some (whole, rest) =>
    let (fraction, rest) := readFraction rest
    let (exponent, rest) := readExponent rest
    if fraction.isEmpty && exponent.isNone then
      match Numeral.readRun whole with
      | .ok n => .ok (.int (if negative then -(n : Int) else n), rest)
      | .error fault => .error (.value fault)
    else
      let literal : Literal := { negative, whole, fraction, exponent := exponent.getD 0 }
      .ok (.float literal.nearest, rest)

def readScalar (cs : List Char) : Except Stop (Value × List Char) :=
  match readWord? cs with
  | some found => .ok found
  | none => readNumber cs

def readKey (cs : List Char) : Except Stop (String × List Char) :=
  match cs with
  | [] => .error (.at .noPropertyName cs)
  | c :: rest =>
    if c = '"' then do
      let (key, rest) ← readText cs rest
      match skipSpace rest with
      | [] => throw (.at .noColon [])
      | c :: rest => if c = ':' then return (key, skipSpace rest) else throw (.at .noColon (c :: rest))
    else .error (.at .noPropertyName cs)

/-- Arrays and objects may be nested this deep. -/
def nestingLimit : Nat := 987

mutual

/-- Reads the value at the front. Each call costs one unit of fuel; `room` is how much deeper arrays and
objects may be nested. -/
def readValue : Nat → Nat → List Char → Except Stop (Value × List Char)
  | 0, _, cs => .error (.at .noValue cs)
  | _ + 1, _, [] => .error (.at .noValue [])
  | fuel + 1, room, c :: cs =>
    if c = '"' then do
      let (s, rest) ← readText (c :: cs) cs
      return (.text s, rest)
    else if c = '[' then
      match room, after? [']'] (skipSpace cs) with
      | 0, _ => .error (.tooDeep .array)
      | _ + 1, some rest => .ok (.list [], rest)
      | room + 1, none => do
        let (xs, rest) ← readItems fuel room (skipSpace cs)
        return (.list xs, rest)
    else if c = '\x7b' then
      match room, after? ['\x7d'] (skipSpace cs) with
      | 0, _ => .error (.tooDeep .object)
      | _ + 1, some rest => .ok (.record [], rest)
      | room + 1, none => do
        let (fs, rest) ← readMembers fuel room (skipSpace cs)
        return (Value.ofPairs fs, rest)
    else readScalar (c :: cs)

def readItems : Nat → Nat → List Char → Except Stop (List Value × List Char)
  | 0, _, cs => .error (.at .noValue cs)
  | fuel + 1, room, cs => do
    let (x, rest) ← readValue fuel room cs
    match skipSpace rest with
    | [] => throw (.at .noComma [])
    | c :: rest =>
      if c = ']' then return ([x], rest)
      else if c = ',' then
        let (xs, rest) ← readItems fuel room (skipSpace rest)
        return (x :: xs, rest)
      else throw (.at .noComma (c :: rest))

def readMembers : Nat → Nat → List Char → Except Stop (List (Value × Value) × List Char)
  | 0, _, cs => .error (.at .noPropertyName cs)
  | fuel + 1, room, cs => do
    let (key, rest) ← readKey cs
    let (v, rest) ← readValue fuel room rest
    match skipSpace rest with
    | [] => throw (.at .noComma [])
    | c :: rest =>
      if c = '\x7d' then return ([(.text key, v)], rest)
      else if c = ',' then
        let (fs, rest) ← readMembers fuel room (skipSpace rest)
        return ((.text key, v) :: fs, rest)
      else throw (.at .noComma (c :: rest))

end

def enough (cs : List Char) : Nat := 2 * cs.length + 2

def readDocument (cs : List Char) : Except Stop Value := do
  if (after? ['\ufeff'] cs).isSome then throw (.at .byteOrderMark cs)
  let (v, rest) ← readValue (enough cs) nestingLimit (skipSpace cs)
  match skipSpace rest with
  | [] => return v
  | extra => throw (.at .extraData extra)

def decodeChars (cs : List Char) : Except Fault Value := (readDocument cs).mapError (Fault.ofStop cs)

def decode (s : String) : Except Fault Value := decodeChars s.toList

end RecordPipeline.Json

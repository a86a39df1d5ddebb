import RecordPipeline.Journal.Template.Written
import RecordPipeline.Value.Equal
import RecordPipeline.Value.Text
set_option autoImplicit false

/-!
Filling in templates. Slots take arguments in order, and each argument has to be taken; a slot with a
key takes the entry under it of a single record. Without arguments a template is its own text.
-/

namespace RecordPipeline.Journal.Template

inductive Fault where
  | tooFewArguments
  | tooManyArguments
  | noMapping
  | unclosedKey
  | missingKey (key : String)
  | incomplete
  | unknownLetter (letter : Char) (position : Nat)
  | sizeNotWhole
  | sizeTooLarge (what : String)
  | sizeOutOfRange (type : String)
  | notReal (letter : Char) (type : String)
  | notWhole (letter : Char) (type : String)
  | notANumber (type : String)
  | notACharacter
  | noSuchCharacter
  | nanNotWhole (source : String)
  | infinityNotWhole (source : String)
  | signalingNotReal
  | wholeTooLarge
  | quotientTooLarge
  | value (fault : ValueFault)
  deriving DecidableEq

namespace Fault

def shownLetter (c : Char) : Char := if 31 ≤ c.toNat && c.toNat < 126 then c else '?'

def required (letter : Char) (what type : String) : String :=
  "%" ++ String.singleton letter ++ " format: " ++ what ++ " is required, not " ++ type

def message : Fault → String
  | .tooFewArguments => "not enough arguments for format string"
  | .tooManyArguments => "not all arguments converted during string formatting"
  | .noMapping => "format requires a mapping"
  | .unclosedKey => "incomplete format key"
  | .missingKey key => Text.quoted key
  | .incomplete => "incomplete format"
  | .unknownLetter c position =>
    "unsupported format character '" ++ String.singleton (shownLetter c) ++ "' (0x" ++
      String.ofList (Nat.toDigits 16 c.toNat) ++ ") at index " ++
      String.ofList (Numeral.digits position)
  | .sizeNotWhole => "* wants int"
  | .sizeTooLarge what => what ++ " too big"
  | .sizeOutOfRange type => "Python int too large to convert to C " ++ type
  | .notReal letter type => required letter "a real number" type
  | .notWhole letter type => required letter "an integer" type
  | .notANumber type => "must be real number, not " ++ type
  | .notACharacter => "%c requires int or char"
  | .noSuchCharacter => "%c arg not in range(0x110000)"
  | .nanNotWhole source | .infinityNotWhole source => "cannot convert " ++ source ++ " to integer"
  | .signalingNotReal => "cannot convert signaling NaN to float"
  | .wholeTooLarge => "int too large to convert to float"
  | .quotientTooLarge => "integer division result too large for a float"
  | .value fault => fault.message

end Fault

def wholeOf (letter : Char) : Value → Except Fault Int
  | .int n => .ok n
  | .bool b => .ok (if b then 1 else 0)
  | .fraction r => .ok (r.num.tdiv r.den)
  | .float .nan => .error (.nanNotWhole "float NaN")
  | .float (.infinite _) => .error (.infinityNotWhole "float infinity")
  | .float d => .ok (d.truncate?.getD 0)
  | .decimal (.nan _ _ _) => .error (.nanNotWhole "NaN")
  | .decimal (.infinite _) => .error (.infinityNotWhole "Infinity")
  | .decimal d => .ok (d.truncate?.getD 0)
  | v => .error (.notReal letter v.typeLabel)

/-- A whole number for a letter. Only whole numbers are written in other bases than ten, and only these
bases have numerals of any length. -/
def wholeFor (letter : Char) (v : Value) : Except Fault Int :=
  if Written.isBased letter then
    match v with
    | .int n => .ok n
    | .bool b => .ok (if b then 1 else 0)
    | v => .error (.notWhole letter v.typeLabel)
  else do
    let n ← wholeOf letter v
    if Numeral.tooLong n then throw (.value .tooLongToWrite) else return n

def doubleOf : Value → Except Fault Double
  | .float d => .ok d
  | .bool b => .ok (Double.ofRat (if b then 1 else 0))
  | .int n => (Double.ofInt? n).elim (.error .wholeTooLarge) .ok
  | .fraction r =>
    match Double.ofRat r with
    | .infinite _ => .error .quotientTooLarge
    | d => .ok d
  | .decimal (.nan _ signaling _) => if signaling then .error .signalingNotReal else .ok .nan
  | .decimal (.infinite negative) => .ok (.infinite negative)
  | .decimal (.finite negative c e) => .ok (Double.ofScientific negative c e)
  | v => .error (.notANumber v.typeLabel)

def characterOf (v : Value) : Except Fault Char :=
  let ofCode (n : Int) : Except Fault Char :=
    if 0 ≤ n ∧ n < 0x110000 then .ok (Char.ofNat n.toNat) else .error .noSuchCharacter
  match v with
  | .int n => ofCode n
  | .bool b => ofCode (if b then 1 else 0)
  | .text s =>
    match s.toList with
    | [c] => .ok c
    | _ => .error .notACharacter
  | _ => .error .notACharacter

def asciiOnly (s : String) : List Char :=
  s.toList.flatMap fun c => if c.toNat < 0x80 then [c] else Text.codeEscape c.toNat

def write (s : Slot) (left : Bool) (width : Nat) (places : Option Nat) (letter : Char)
    (position : Nat) (v : Value) : Except Fault (List Char) :=
  let text (cs : List Char) : List Char :=
    Written.pad left false width { body := (places.map fun n => cs.take n).getD cs }
  match letter with
  | 's' => (v.plain.map fun t => text t.toList).mapError .value
  | 'r' => (v.shown.map fun t => text t.toList).mapError .value
  | 'a' => (v.shown.map fun t => text (asciiOnly t)).mapError .value
  | 'c' => do return Written.pad left false width { body := [← characterOf v] }
  | 'd' | 'i' | 'u' | 'o' | 'x' | 'X' => do
    let n ← wholeFor letter v
    return (Written.whole s letter (places.getD 0) n).pad left s.zeros width
  | 'e' | 'E' | 'f' | 'F' | 'g' | 'G' => do
    let d ← doubleOf v
    return (Written.real s letter (places.getD 6) d).pad left s.zeros width
  | _ => .error (.unknownLetter letter position)

structure Supply where
  pending : List Value
  named : Option (List (Value × Value))

/-- A single record that holds something is a record of named arguments, and an argument as well. -/
def Supply.of (args : List Value) : Supply :=
  match args with
  | [.record (f :: fs)] => ⟨args, some (f :: fs)⟩
  | _ => ⟨args, none⟩

abbrev Filling (α : Type) := StateT Supply (Except Fault) α

namespace Filling

def next : Filling Value := do
  let s ← get
  match s.pending with
  | [] => throw .tooFewArguments
  | v :: rest =>
    set { s with pending := rest }
    return v

def select (key : String) : Filling Unit := do
  let s ← get
  match s.named with
  | none => throw .noMapping
  | some fs =>
    match Value.field? key fs with
    | none => throw (.missingKey key)
    | some v => set { s with pending := [v] }

def sizeWithin (bits : Nat) (type : String) (n : Int) : Filling (Option Int) :=
  if -2 ^ bits ≤ n ∧ n < 2 ^ bits then return some n else throw (.sizeOutOfRange type)

def size (bits : Nat) (what type : String) : Size → Filling (Option Int)
  | .absent => return none
  | .given n => if n < 2 ^ bits then return some (n : Int) else throw (.sizeTooLarge what)
  | .argument => do
    match ← next with
    | .int n => sizeWithin bits type n
    | .bool b => return some (if b then 1 else 0)
    | _ => throw .sizeNotWhole

def slot (s : Slot) : Filling (List Char) := do
  if let some key := s.key then select key
  let width := (← size 63 "width" "ssize_t" s.width).getD 0
  let places := (← size 31 "precision" "int" s.places).map Int.toNat
  match s.letter with
  | none => throw .incomplete
  | some (letter, position) =>
    match write s (s.left || width < 0) width.natAbs places letter position (← next) with
    | .ok cs => return cs
    | .error fault => throw fault

def piece : Piece → Filling (List Char)
  | .literal cs => return cs
  | .slot s => slot s
  | .unclosedKey => do
    if (← get).named.isNone then throw .noMapping else throw .unclosedKey

def all : List Piece → Filling (List Char)
  | [] => do
    let s ← get
    if s.named.isNone && !s.pending.isEmpty then throw .tooManyArguments else return []
  | p :: ps => do return (← piece p) ++ (← all ps)

end Filling

def fill (template : String) (args : List Value) : Except Fault String :=
  if args.isEmpty then .ok template
  else ((Filling.all (pieces template.toList)).run' (Supply.of args)).map String.ofList

end RecordPipeline.Journal.Template

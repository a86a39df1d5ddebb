import RecordPipeline.Value.Equal
import RecordPipeline.Value.Text
set_option autoImplicit false

namespace RecordPipeline

structure Version where
  major : Value
  minor : Option Value := none

inductive VersionFault where
  /-- The given value is no version text; `shown` is how it is shown. -/
  | malformed (given : Value) (shown : String)
  | value (fault : ValueFault)

namespace VersionFault

def message : VersionFault → String
  | .malformed _ shown => "Invalid pipeline version provided: " ++ shown
  | .value fault => fault.message

end VersionFault

namespace Version

def ofNumbers (major : Int) (minor : Option Int) : Version :=
  { major := .int major, minor := minor.map .int }

def current : Version := ofNumbers 2 (some 1)

def readRuns (cs : List Char) : Option (List Char × Option (List Char)) :=
  let (major, rest) := cs.span Char.isDigit
  if major.isEmpty then none
  else match rest with
    | [] => some (major, none)
    | '.' :: minor => if Numeral.isRun minor then some (major, some minor) else none
    | _ => none

def ofRuns : List Char × Option (List Char) → Except ValueFault Version
  | (major, none) => do return ofNumbers (← Numeral.readRun major) none
  | (major, some minor) => do
    let major ← Numeral.readRun major
    let minor ← Numeral.readRun minor
    return ofNumbers major (some minor)

def malformed (given : Value) : VersionFault :=
  match given.shown with
  | .ok shown => .malformed given shown
  | .error fault => .value fault

def parse (given : Value) : Except VersionFault Version :=
  match given with
  | .text s =>
    match readRuns s.toList with
    | some runs => (ofRuns runs).mapError .value
    | none => .error (malformed given)
  | _ => .error (malformed given)

def isShorthand (v : Version) : Bool := v.minor.isNone

def text (v : Version) : Except ValueFault String :=
  match v.minor with
  | none => v.major.plain
  | some minor => do return (← v.major.plain) ++ "." ++ (← minor.plain)

/-- Equal majors, and equal minors unless one of the versions is shorthand. -/
def compatible (a b : Version) : Except ValueFault Bool := do
  if !(← a.major.equal b.major) then return false
  match a.minor, b.minor with
  | some m, some n => m.equal n
  | _, _ => return true

def equal (a b : Version) : Except ValueFault Bool := do
  if !(← a.major.equal b.major) then return false
  match a.minor, b.minor with
  | some m, some n => m.equal n
  | none, none => return true
  | _, _ => return false

def currentText : String := "2.1"

example : current.text = .ok currentText := by cbv

theorem compatible_ofNumbers (major : Int) (minor : Option Int) (major' : Int) (minor' : Option Int) :
    (ofNumbers major minor).compatible (ofNumbers major' minor') =
      .ok (major = major' && (minor.isNone || minor'.isNone || minor = minor')) := by
  by_cases h : major = major' <;> cases minor <;> cases minor' <;>
    simp [compatible, ofNumbers, Value.equal, h, bind, Except.bind, pure, Except.pure]

theorem equal_ofNumbers (major : Int) (minor : Option Int) (major' : Int) (minor' : Option Int) :
    (ofNumbers major minor).equal (ofNumbers major' minor') =
      .ok (major = major' && minor = minor') := by
  by_cases h : major = major' <;> cases minor <;> cases minor' <;>
    simp [equal, ofNumbers, Value.equal, h, bind, Except.bind, pure, Except.pure]

end Version

end RecordPipeline

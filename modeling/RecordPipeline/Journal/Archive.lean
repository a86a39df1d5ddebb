import RecordPipeline.Text.Numeral
set_option autoImplicit false

namespace RecordPipeline.Journal

/-- Files are put aside when they would reach a size; so many backups are kept. A size of zero is no
limit, and without backups to keep a file just grows. -/
structure Rotation where
  maxBytes : Int
  backups : Int
  deriving DecidableEq

structure Archive where
  current : String := ""
  backups : List String := []
  deriving DecidableEq

namespace Archive

/-- Whether a text on a line of its own would fill up a file. The text counts in characters, what is
there in bytes. -/
def fills (r : Rotation) (content text : String) : Bool :=
  0 < r.maxBytes && r.maxBytes ≤ content.utf8ByteSize + text.length + 1

def putAside (keep : Nat) (a : Archive) : Archive :=
  { current := "", backups := (a.current :: a.backups).take keep }

def append (a : Archive) (text : String) : Archive := { a with current := a.current ++ text ++ "\n" }

def write (r : Rotation) (a : Archive) (text : String) : Archive :=
  if fills r a.current text && 0 < r.backups then (a.putAside r.backups.toNat).append text
  else a.append text

def writeAll (r : Rotation) (a : Archive) (texts : List String) : Archive := texts.foldl (write r) a

def files (name : String) (a : Archive) : List (String × String) :=
  (name, a.current) ::
    a.backups.zipIdx.map fun b => (name ++ "." ++ String.ofList (Numeral.digits (b.2 + 1)), b.1)

end Archive

def lineCount (content : String) : Nat := content.toList.count '\n'

end RecordPipeline.Journal

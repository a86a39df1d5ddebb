import RecordPipeline.Text.Split
set_option autoImplicit false

namespace RecordPipeline.CommandLine

structure Path where
  root : List Char
  names : List (List Char)
  deriving DecidableEq

namespace Path

def rootOf (cs : List Char) : List Char :=
  match (cs.takeWhile (· = '/')).length with
  | 0 => []
  | 2 => ['/', '/']
  | _ => ['/']

def ofText (s : String) : Path :=
  { root := rootOf s.toList
    names := (Text.splitAll '/' s.toList).filter fun name => !name.isEmpty && name ≠ ['.'] }

def text (p : Path) : String :=
  if p.root.isEmpty && p.names.isEmpty then "."
  else String.ofList (p.root ++ Text.join '/' p.names)

/-- Whether a path is a directory whatever there is: the root, the current directory, or one above
it. -/
def isEvidentDirectory (p : Path) : Bool := p.names.all (· = ['.', '.'])

end Path

end RecordPipeline.CommandLine

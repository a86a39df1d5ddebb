import RecordPipeline.Text.Split
import RecordPipeline.Text.WholeNumber
set_option autoImplicit false

/-!
Command line arguments: one input file, field mappings, each after its own option, and a strict mode.
Long options may be shortened as long as they are told apart. After two dashes everything is a word.
-/

namespace RecordPipeline.CommandLine

structure Request where
  input : String
  mappings : List String := []
  strict : Bool := false
  deriving DecidableEq

inductive Switch where
  | help
  | mapping
  | strict
  deriving DecidableEq

inductive Token where
  | word (s : String)
  | separator
  | switch (s : Switch) (attached : Option String)
  | letter (attached : List Char)
  | unknown
  deriving DecidableEq

namespace Token

def longNames : List (String × Switch) :=
  [("--help", .help), ("--mapping", .mapping), ("--strict", .strict)]

def matching (start : List Char) : List Switch :=
  (longNames.filter fun n => start.isPrefixOf n.1.toList).map Prod.snd

def isNegativeNumber (cs : List Char) : Bool :=
  let isRun (ds : List Char) : Bool := ds.all fun c => (Text.asciiDigit? c).isSome
  match Text.cut '.' cs with
  | (whole, none) => !whole.isEmpty && isRun whole
  | (whole, some places) => isRun whole && !places.isEmpty && isRun places

def ofRest (cs : List Char) : Token :=
  if isNegativeNumber (cs.drop 1) || cs.contains ' ' then .word (String.ofList cs) else .unknown

/-- What one argument is; nothing when it shortens several options. An exact name wins over longer ones,
and what follows an equals sign is attached. -/
def ofArgument? (arg : String) : Option Token :=
  match arg.toList with
  | ['-', 'h'] => some (.letter [])
  | '-' :: '-' :: cs =>
    let (start, attached) := Text.cut '=' ('-' :: '-' :: cs)
    match longNames.lookup (String.ofList start), matching start with
    | some s, _ | none, [s] => some (.switch s (attached.map String.ofList))
    | none, [] => some (ofRest ('-' :: '-' :: cs))
    | none, _ => none
  | '-' :: 'h' :: cs => some (.letter cs)
  | '-' :: c :: cs => some (ofRest ('-' :: c :: cs))
  | _ => some (.word arg)

def ofArguments? : List String → Option (List Token)
  | [] => some []
  | arg :: rest =>
    if arg = "--" then some (.separator :: rest.map .word)
    else do return (← ofArgument? arg) :: (← ofArguments? rest)

def asksForHelp (attached : List Char) : Bool :=
  match attached.dropWhile (· = 'h') with
  | [] => true
  | c :: _ => c ≠ '=' && c ≠ '-'

end Token

inductive Reading where
  | help
  | rejected
  | request (r : Request)
  deriving DecidableEq

namespace Reading

structure Taken where
  input : Option String := none
  mappings : List String := []
  strict : Bool := false
  left : Bool := false

def Taken.finish (t : Taken) : Reading :=
  match t.input with
  | some input => if t.left then .rejected else .request { input, mappings := t.mappings, strict := t.strict }
  | none => .rejected

/-- Takes tokens in order. The separator belongs to the input if it stands right before or after it. -/
def ofTokens (t : Taken) : List Token → Reading
  | [] => t.finish
  | .word w :: rest =>
    match t.input with
    | some _ => ofTokens { t with left := true } rest
    | none =>
      match rest with
      | .separator :: rest => ofTokens { t with input := some w } rest
      | rest => ofTokens { t with input := some w } rest
  | .separator :: rest => ofTokens { t with left := t.left || t.input.isSome } rest
  | .switch .help none :: _ => .help
  | .switch .strict none :: rest => ofTokens { t with strict := true } rest
  | .switch .mapping (some m) :: rest => ofTokens { t with mappings := t.mappings ++ [m] } rest
  | .switch .mapping none :: .word m :: rest => ofTokens { t with mappings := t.mappings ++ [m] } rest
  | .switch _ _ :: _ => .rejected
  | .letter attached :: _ => if Token.asksForHelp attached then .help else .rejected
  | .unknown :: rest => ofTokens { t with left := true } rest

def ofArguments (args : List String) : Reading :=
  match Token.ofArguments? args with
  | some tokens => ofTokens {} tokens
  | none => .rejected

def inputPath : Reading → String
  | .request r => r.input
  | _ => ""

end Reading

end RecordPipeline.CommandLine

import RecordPipeline.Double.Text
import RecordPipeline.Journal.Entry
set_option autoImplicit false

namespace RecordPipeline

structure Operation where
  name : String
  logger : String

namespace Operation

def startEntry (o : Operation) : Entry := .of (loggerName o.logger) .info ("Starting " ++ o.name)

def secondsText (elapsed : Double) : String := String.ofList (elapsed.fixed 2) ++ " seconds"

def doneEntry (o : Operation) (elapsed : Double) : Entry :=
  .of (loggerName o.logger) .info ("Completed " ++ o.name ++ " in " ++ secondsText elapsed)

def failedEntry (o : Operation) (elapsed : Double) (message : String) : Entry :=
  .of (loggerName o.logger) .error
    ("Failed " ++ o.name ++ " after " ++ secondsText elapsed ++ ": " ++ message)

def endEntry {ε α : Type} (o : Operation) (start finish : Double) (message : ε → String)
    (outcome : Except ε α) : Entry :=
  match outcome with
  | .ok _ => o.doneEntry (finish.sub start)
  | .error e => o.failedEntry (finish.sub start) (message e)

end Operation

end RecordPipeline

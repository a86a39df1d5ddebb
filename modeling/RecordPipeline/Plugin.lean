import RecordPipeline.Journal.Entry
import RecordPipeline.Version
set_option autoImplicit false

/-!
The activation gate. A plugin whose declared version cannot be read is always rejected; one that is
incompatible with the host is rejected only when versions are enforced.
-/

namespace RecordPipeline

structure Descriptor where
  pluginId : Value
  name : Value
  version : Value

structure Rejection where
  message : String
  pluginName : Value
  declared : String
  host : String
  cause : Option VersionFault

inductive ActivationFault where
  | rejected (rejection : Rejection)
  | value (fault : ValueFault)

def ActivationFault.message : ActivationFault → String
  | .rejected r => r.message
  | .value fault => fault.message

structure Activator where
  host : Version := .current
  enforce : Bool

namespace Activator

def logger : String := "plugins.activation"

def check (host : Version) (declared : Value) : Except VersionFault Bool := do
  ((← Version.parse declared).compatible host).mapError .value

def malformedRejection (a : Activator) (d : Descriptor) (cause : VersionFault) :
    Except ValueFault Rejection := do
  return {
    message := "Plugin " ++ (← d.name.plain) ++ " declares a malformed version"
    pluginName := d.name
    declared := ← d.version.plain
    host := ← a.host.text
    cause := some cause }

def incompatibleRejection (a : Activator) (d : Descriptor) : Except ValueFault Rejection := do
  let name ← d.name.plain
  let declared ← d.version.plain
  let host ← a.host.text
  return {
    message := "Plugin " ++ name ++ " version " ++ declared ++
      " is incompatible with pipeline version " ++ host
    pluginName := d.name
    declared
    host
    cause := none }

def reject (r : Except ValueFault Rejection) : Except ActivationFault Descriptor :=
  match r with
  | .ok rejection => .error (.rejected rejection)
  | .error fault => .error (.value fault)

def malformedEntry (d : Descriptor) (cause : VersionFault) : Entry :=
  .attempt logger .error do
    return "Rejected plugin " ++ (← d.name.plain) ++ ": " ++ cause.message

def activatedEntry (a : Activator) (d : Descriptor) : Entry :=
  .attempt logger .info do
    return "Activated plugin " ++ (← d.name.plain) ++ " (version " ++ (← d.version.plain) ++
      ", host " ++ (← a.host.text) ++ ")"

def toleratedEntry (a : Activator) (d : Descriptor) : Entry :=
  .attempt logger .warning do
    return "Plugin " ++ (← d.name.plain) ++ " version " ++ (← d.version.plain) ++
      " is incompatible with host " ++ (← a.host.text) ++ ", activating anyway"

def incompatibleEntry (a : Activator) (d : Descriptor) : Entry :=
  .attempt logger .error do
    return "Rejected plugin " ++ (← d.name.plain) ++ ": version " ++ (← d.version.plain) ++
      " is incompatible with host " ++ (← a.host.text)

/-- Decides on a plugin, with the entry that reports the decision. A fault that is neither a malformed
nor an incompatible version is not reported. -/
def activate (a : Activator) (d : Descriptor) : List Entry × Except ActivationFault Descriptor :=
  match check a.host d.version with
  | .error (.value fault) => ([], .error (.value fault))
  | .error cause => ([malformedEntry d cause], reject (a.malformedRejection d cause))
  | .ok true => ([a.activatedEntry d], .ok d)
  | .ok false =>
    if a.enforce then ([a.incompatibleEntry d], reject (a.incompatibleRejection d))
    else ([a.toleratedEntry d], .ok d)

end Activator

end RecordPipeline

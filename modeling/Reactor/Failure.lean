import Reactor.Descriptor
import Reactor.Files

namespace Reactor

inductive ExitStatus
  | code (n : Nat)
  /-- A signal without a name has an empty one. -/
  | signal (n : Nat) (name : String)
  deriving DecidableEq, Repr

def ExitStatus.message : ExitStatus → String
  | code n => s!"exit status: {n}"
  | signal n name => if name.isEmpty then s!"signal: {n}" else s!"signal: {n} ({name})"

inductive RenderFault
  | cancelled
  | notStarted (command : String) (error : SystemError)
  | timedOut (seconds : Nat)
  | exited (command : String) (status : ExitStatus)
  | noOutput (error : String)
  | outputNotXml
  | outputNotDescriptor (path : Path) (fault : DescriptorFault)
  | noProject (coordinate : Coordinate)
  | other (reason : String)
  deriving DecidableEq, Repr

inductive Failure
  | malformed (path : Path) (fault : DescriptorFault)
  | unavailable (path : Path) (fault : RenderFault)
  | cyclic (path : Path) (key : ArtifactKey)
  | unreadable (path : Path) (fault : ReadFault)
  deriving DecidableEq, Repr

def malformedMessage (path : Path) (fault : DescriptorFault) : String :=
  s!"Malformed descriptor {path.quoted}: {fault.message}"

def RenderFault.message : RenderFault → String
  | cancelled => "cancelled"
  | notStarted command error => s!"failed to start {command}: {error.message}"
  | timedOut seconds => s!"timed out after {seconds}s"
  | exited command status => s!"{command} exited with {status.message}"
  | noOutput error => s!"no effective output: {error}"
  | outputNotXml => "malformed output"
  | outputNotDescriptor path fault => s!"malformed output: {malformedMessage path fault}"
  | noProject coordinate => s!"no project for {coordinate.text} in output"
  | other reason => reason

namespace Failure

def path : Failure → Path
  | malformed p _ | unavailable p _ | cyclic p _ | unreadable p _ => p

def isMalformed : Failure → Bool
  | malformed .. => true
  | _ => false

def message : Failure → String
  | malformed p fault => malformedMessage p fault
  | unavailable p fault =>
    s!"Effective descriptor unavailable for {p.quoted}: {fault.message}"
  | cyclic p key => s!"Cyclic parent chain at {key.text} while resolving {p.quoted}"
  | unreadable p fault => s!"Failed to read descriptor {p.quoted}: {fault.message}"

end Failure

namespace Descriptor

def parse (path : Path) (text : String) : Except Failure Descriptor :=
  (ofText path text).mapError (Failure.malformed path)

/-- Bytes that are no text make a descriptor malformed; any other refusal leaves it unread. -/
def read (files : FileView) (path : Path) : Except Failure Descriptor :=
  match files.read path with
  | .ok text => parse path text
  | .error (.invalidText _) => .error (.malformed path (.notText Reactor.invalidText))
  | .error fault => .error (.unreadable path fault)

end Descriptor

end Reactor

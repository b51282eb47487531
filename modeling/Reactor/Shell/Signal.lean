import Reactor.Failure
import Reactor.Shell.Script

namespace Reactor.Shell.Signal

/-- The names of the signals from number one on. Shells give no name to number 16. -/
def names : List String :=
  ["HUP", "INT", "QUIT", "ILL", "TRAP", "ABRT", "BUS", "FPE", "KILL", "USR1", "SEGV", "USR2",
    "PIPE", "ALRM", "TERM", "STKFLT", "CHLD", "CONT", "STOP", "TSTP", "TTIN", "TTOU", "URG", "XCPU",
    "XFSZ", "VTALRM", "PROF", "WINCH", "IO", "PWR", "SYS"]

def highest : Nat := 64

def term : Nat := 15

def kill : Nat := 9

def fullName (n : Nat) : String :=
  match if n = 0 then none else names[n - 1]? with
  | some name => "SIG" ++ name
  | none => ""

/-- The first and the last of the signals that are left to programs. -/
def firstFree : Nat := 34

def freeNames : List (String × Nat) :=
  ("RTMIN", firstFree) :: ("RTMAX", highest)
    :: (List.range 15).map (fun k ↦ (s!"RTMIN+{k + 1}", firstFree + k + 1))
    ++ (List.range 14).map fun k ↦ (s!"RTMAX-{k + 1}", highest - k - 1)

def ofName? (name : String) : Option Nat :=
  if name = "EXIT" then some 0
  else if name = "STKFLT" then none
  else ((names.findIdx? (· == name)).map (· + 1)).or (freeNames.lookup name)

def shortName (n : Nat) : String :=
  if n = 0 then "EXIT"
  else
    match names[n - 1]? with
    | some name => if name = "STKFLT" then toString n else name
    | none => ((freeNames.find? (·.2 == n)).map Prod.fst).getD (toString n)

def read? (cs : Octets) : Option Nat :=
  if !cs.isEmpty && cs.all Char.isDigit then
    (String.ofList cs).toNat?.filter (· ≤ highest)
  else ofName? (String.ofList (cs.map Char.toUpper))

def isHarmless (n : Nat) : Bool := ["CHLD", "CONT", "URG", "WINCH"].any (ofName? · == some n)

def isStop (n : Nat) : Bool := ["STOP", "TSTP", "TTIN", "TTOU"].any (ofName? · == some n)

def isFinal (n : Nat) : Bool := n == kill || ofName? "STOP" == some n

/-- The status of a process that a signal ends, as others see it. -/
def status (n : Nat) : Nat := 128 + n

end Reactor.Shell.Signal

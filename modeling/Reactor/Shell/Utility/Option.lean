import Reactor.Shell.State

namespace Reactor.Shell

open Run

structure Options where
  given : List (Char × Octets)
  operands : List Octets

structure OptionTable where
  flags : String
  valued : String := ""
  long : List (String × Char) := []
  /-- The first operand ends the options. -/
  stops : Bool := false

namespace Options

def has (o : Options) (c : Char) : Bool := o.given.any (·.1 == c)

def value? (o : Options) (c : Char) : Option Octets :=
  (o.given.reverse.find? (·.1 == c)).map Prod.snd

def last? (o : Options) (cs : String) : Option Char :=
  (o.given.reverse.find? fun g ↦ cs.toList.contains g.1).map Prod.fst

def put (o : Options) (c : Char) (value : Octets) : Options :=
  { o with given := o.given ++ [(c, value)] }

end Options

namespace OptionTable

variable (t : OptionTable)

/-- The letter of a long name, which may be cut short where that is clear. -/
def longLetter? (name : String) : Option Char :=
  match t.long.lookup name with
  | some c => some c
  | none =>
    match t.long.filter (·.1.startsWith name) with
    | [(_, c)] => some c
    | _ => none

/-- Reads the letters after a hyphen; the value of an option is the rest of them or the next
word. -/
def readLetters (o : Options) (next : List Octets) : Octets → Option (Options × List Octets)
  | [] => some (o, next)
  | c :: cs =>
    if t.valued.toList.contains c then
      match cs, next with
      | [], w :: next => some (o.put c w, next)
      | [], [] => none
      | cs, next => some (o.put c cs, next)
    else if t.flags.toList.contains c then readLetters (o.put c []) next cs
    else none

def readFrom : Nat → Options → List Octets → Option Options
  | 0, o, _ => some o
  | _ + 1, o, [] => some o
  | n + 1, o, w :: ws =>
    match w with
    | ['-', '-'] => some { o with operands := o.operands ++ ws }
    | '-' :: '-' :: name =>
      let key := String.ofList (name.takeWhile (· != '='))
      match t.longLetter? key, name.dropWhile (· != '=') with
      | none, _ => none
      | some c, _ :: value =>
        if t.valued.toList.contains c then readFrom n (o.put c value) ws else none
      | some c, [] =>
        if t.valued.toList.contains c then
          match ws with
          | value :: ws => readFrom n (o.put c value) ws
          | [] => none
        else readFrom n (o.put c []) ws
    | '-' :: c :: cs =>
      match t.readLetters o ws (c :: cs) with
      | some (o, ws) => readFrom n o ws
      | none => none
    | _ =>
      if t.stops then some { o with operands := o.operands ++ w :: ws }
      else readFrom n { o with operands := o.operands ++ [w] } ws

def read? (ws : List Octets) : Option Options := t.readFrom (ws.length + 1) ⟨[], []⟩ ws

end OptionTable

abbrev Utility := List Octets → Run Unit

/-- Runs a program with its options; it refuses what it does not know with a status, and tells
about itself when asked. -/
def withOptions (t : OptionTable) (refusal : Nat) (run : Options → Run Unit) : Utility :=
  fun ws ↦ do
  let asks (s : String) := (ws.takeWhile (· ≠ ['-', '-'])).contains s.toList
  match t.read? ws with
  | some o => run o
  | none => if asks "--help" || asks "--version" then print "\n".toList else setStatus refusal

/-- Reads with what an operand names as the input; a hyphen names the input itself. -/
def readingFrom {α : Type} (operand : Octets) (read : Run (Option α)) : Run (Option α) := do
  if operand = ['-'] then read
  else
    match ← openFile operand .reads with
    | .error _ => return none
    | .ok id =>
      let before ← descriptorId? 0
      setDescriptor 0 (some id)
      let found ← read
      setDescriptor 0 before
      return found

def inputOf? (operand : Octets) : Run (Option Octets) := readingFrom operand (readAll? 0)

/-- Sees to the text of each operand, or of the input if there are none; what cannot be read makes
the status. -/
def forInputs (operands : List Octets) (refusal : Nat) (f : Octets → Octets → Run Unit) :
    Run Unit := do
  setStatus 0
  for operand in (if operands.isEmpty then [['-']] else operands) do
    match ← inputOf? operand with
    | some text => f operand text
    | none => setStatus refusal

def allInput (operands : List Octets) (refusal : Nat) : Run (Option Octets) := do
  let mut all : List Octets := []
  for operand in (if operands.isEmpty then [['-']] else operands) do
    match ← inputOf? operand with
    | some text => all := text :: all
    | none =>
      setStatus refusal
      return none
  setStatus 0
  return some all.reverse.flatten

def emit (cs : Octets) : Run Unit := do if !(← write cs) then setStatus 1

def linesOf (cs : Octets) : List (Octets × Bool) :=
  let pieces := Text.cut '\n' cs
  let body := pieces.dropLast.map (·, true)
  match pieces.getLast? with
  | some [] | none => body
  | some last => body ++ [(last, false)]

def plainLines (cs : Octets) : List Octets := (linesOf cs).map Prod.fst

def endedLines (ls : List Octets) : Octets := ls.flatMap (· ++ ['\n'])

def natural? (cs : Octets) : Option Nat :=
  if cs.isEmpty || !cs.all Char.isDigit then none else (String.ofList cs).toNat?

def count? (cs : Octets) : Option Nat :=
  let digits := cs.takeWhile Char.isDigit
  (natural? digits).bind fun n ↦
    match String.ofList (cs.drop digits.length) with
    | "" => some n
    | "b" => some (n * 512)
    | "k" | "K" | "KiB" => some (n * 1024)
    | "kB" => some (n * 1000)
    | "m" | "M" | "MiB" => some (n * 1048576)
    | "MB" => some (n * 1000000)
    | _ => none

end Reactor.Shell

namespace Reactor.Text

inductive NaturalFault
  | empty
  | invalidDigit
  | tooLarge
  deriving DecidableEq, Repr

def NaturalFault.message : NaturalFault → String
  | empty => "cannot parse integer from empty string"
  | invalidDigit => "invalid digit found in string"
  | tooLarge => "number too large to fit in target type"

def naturalLimit : Nat := Nat.pow 2 64

/-- Of two faults the one further to the left is told. -/
def addDigit (n : Nat) (c : Char) : Except NaturalFault Nat :=
  if !c.isDigit then .error .invalidDigit
  else
    let m := 10 * n + (c.toNat - '0'.toNat)
    if m < naturalLimit then .ok m else .error .tooLarge

def readNatural (cs : List Char) : Except NaturalFault Nat :=
  match cs with
  | [] => .error .empty
  | ['+'] => .error .invalidDigit
  | '+' :: digits => digits.foldlM addDigit 0
  | digits => digits.foldlM addDigit 0

end Reactor.Text

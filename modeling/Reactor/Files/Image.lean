import Reactor.Files.Disk

namespace Reactor.Disk

def digit? (c : Char) : Option UInt8 :=
  if c.isDigit then some (c.toNat - '0'.toNat).toUInt8
  else if 'a' ≤ c && c ≤ 'f' then some (c.toNat - 'a'.toNat + 10).toUInt8
  else none

def bytesOfDigits? : List Char → Option (List UInt8)
  | [] => some []
  | [_] => none
  | a :: b :: rest =>
    match digit? a, digit? b, bytesOfDigits? rest with
    | some a, some b, some bytes => some ((16 * a + b) :: bytes)
    | _, _, _ => none

def divide (separator : Char) (cs : List Char) : List Char × List Char :=
  (cs.takeWhile (· != separator), (cs.dropWhile (· != separator)).drop 1)

/-- A line starts with a letter for the kind; then stand the bytes of a file in hexadecimal digits,
or the target of a link and a tab, and at the end the path. -/
def addLine? (d : Disk) (line : String) : Option Disk :=
  let file (isExecutable : Bool) (cs : List Char) : Option Disk :=
    let (digits, path) := divide ' ' cs
    (bytesOfDigits? digits).map fun bytes ↦
      d.add ⟨String.ofList path⟩ (.file ⟨bytes.toArray⟩ isExecutable)
  match line.toList with
  | 'd' :: ' ' :: path => some (d.addDirectory ⟨String.ofList path⟩)
  | 'f' :: ' ' :: cs => file false cs
  | 'x' :: ' ' :: cs => file true cs
  | 'l' :: ' ' :: cs =>
    let (target, path) := divide '\t' cs
    some (d.add ⟨String.ofList path⟩ (.link (String.ofList target)))
  | _ => none

def ofLines? (working : Path) (lines : List String) : Option Disk :=
  let place := working.components.filterMap Component.name?
  lines.foldlM addLine? ((empty place).addDirectory working)

end Reactor.Disk

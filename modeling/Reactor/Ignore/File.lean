import Reactor.Files.Disk
import Reactor.Ignore.Rule

namespace Reactor

inductive IgnoreFault
  | rule (line : Nat) (fault : IgnoreRule.Fault)
  | notText (line : Nat)
  | tooDeep (position : Nat)
  deriving DecidableEq, Repr

def IgnoreFault.message (file : Path) : IgnoreFault → String
  | rule line f => s!"{file.text}: line {line}: error parsing glob '{f.line}': {f.fault.message}"
  | notText line => s!"{file.text}: line {line}: {invalidText}"
  | tooDeep n => s!"error parsing pattern {n}"

structure IgnoreFile where
  root : Path
  rules : List IgnoreRule

namespace IgnoreFile

def dropReturn (line : List UInt8) : List UInt8 :=
  if line.getLast? = some 13 then line.dropLast else line

def lines (content : List UInt8) : List (List UInt8) :=
  let pieces := content.splitOn 10
  pieces.dropLast.map dropReturn ++ pieces.getLast?.toList

/-- Byte order marks in front of the first line do not count. -/
def dropMarks (line : Nat) (text : String) : String :=
  if line = 1 then String.ofList (text.toList.dropWhile (· == '\ufeff')) else text

def readLines : Nat → List (List UInt8) → List IgnoreRule × List IgnoreFault
  | _, [] => ([], [])
  | n, line :: rest =>
    match String.fromUTF8? ⟨line.toArray⟩ with
    | none => ([], [.notText n])
    | some text =>
      let (rules, faults) := readLines (n + 1) rest
      match IgnoreRule.ofLine (dropMarks n text) with
      | .ok rule => (rule.toList ++ rules, faults)
      | .error e => (rules, .rule n e :: faults)

def isDeep (r : IgnoreRule) : Bool := r.glob.depth > Glob.depthLimit

/-- Text that cannot be read is only told of beside other faults. -/
def told : List IgnoreFault → List IgnoreFault
  | [.notText _] => []
  | faults => faults

def ofBytes (root : Path) (content : List UInt8) : IgnoreFile × List IgnoreFault :=
  let (rules, faults) := readLines 1 (lines content)
  match rules.findIdx? isDeep with
  | some n => (⟨root, []⟩, told faults ++ [.tooDeep n])
  | none => (⟨root, rules⟩, told faults)

def ofDisk (d : Disk) (root file : Path) : IgnoreFile × List String :=
  match d.bytes file with
  | .ok content =>
    let (f, faults) := ofBytes root content.toList
    (f, faults.map (·.message file))
  | .error _ => (⟨root, []⟩, [])

def dropLead (lead text : List Char) : List Char :=
  if lead.isPrefixOf text then text.drop lead.length else text

def relative (f : IgnoreFile) (path : Path) : String :=
  String.ofList (dropLead ['/'] (dropLead f.root.chars (dropLead ['.', '/'] path.chars)))

/-- Whether a directory is ignored; none if no rule speaks of it. The last that does decides. -/
def verdict? (f : IgnoreFile) (path : Path) : Option Bool :=
  let text := (f.relative path).toUTF8.toList
  (f.rules.reverse.find? (·.glob.pattern.accepts text)).map fun r ↦ !r.isException

end IgnoreFile

end Reactor

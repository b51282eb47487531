import Reactor.Tree
import Reactor.Yaml.Style

namespace Reactor.Tree.Yaml

open Reactor.Yaml (Style.write)

def flat? (column : Nat) : Tree → Option String
  | .null => some "null\n"
  | .bool b => some (if b then "true\n" else "false\n")
  | .text s => some (String.ofList (Style.write column s.toList))
  | .list [] => some "[]\n"
  | .record [] => some "\x7b\x7d\n"
  | _ => none

mutual

def afterKey (column : Nat) : Tree → String
  | .list (item :: rest) => "\n" ++ writeItems column (item :: rest)
  | .record (field :: rest) => "\n" ++ writeFields (column + 2) (field :: rest)
  | .tagged tag value => " !" ++ tag ++ afterKey column value
  | t => " " ++ (flat? (column + 2) t).getD ""

def afterDash (column : Nat) : Tree → String
  | .list (item :: rest) =>
    " -" ++ afterDash (column + 2) item ++ writeItems (column + 2) rest
  | .record ((key, value) :: rest) =>
    " " ++ key ++ ":" ++ afterKey (column + 2) value ++ writeFields (column + 2) rest
  | .tagged tag value => " !" ++ tag ++ afterKey column value
  | t => " " ++ (flat? (column + 2) t).getD ""

def writeItems (column : Nat) : List Tree → String
  | [] => ""
  | item :: rest => pad column ++ "-" ++ afterDash column item ++ writeItems column rest

def writeFields (column : Nat) : List (String × Tree) → String
  | [] => ""
  | (key, value) :: rest =>
    pad column ++ key ++ ":" ++ afterKey column value ++ writeFields column rest

end

/-- The dashes of a list stand below its key, an item's fields begin beside its dash, and a tagged
record begins on the line after its tag. -/
def write : Tree → String
  | .list (item :: rest) => writeItems 0 (item :: rest)
  | .record (field :: rest) => writeFields 0 (field :: rest)
  | t => (flat? 2 t).getD ""

end Reactor.Tree.Yaml

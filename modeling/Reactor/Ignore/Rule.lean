import Reactor.Ignore.Glob
import Reactor.Text.Blank

namespace Reactor

/-- Rules are only asked about directories, so a slash at the end of a rule, which limits it to
directories, changes nothing. -/
structure IgnoreRule where
  glob : Glob
  isException : Bool
  deriving DecidableEq, Repr

namespace IgnoreRule

/-- Drops blanks at the end, but not an escaped one. -/
def trimEnd (line : List Char) : List Char :=
  if line.reverse.take 2 == [' ', '\\'] then line else (line.reverse.dropWhile Text.isBlank).reverse

structure Marked where
  isException : Bool
  isAnchored : Bool
  glob : List Char

def unmark : List Char → Marked
  | '\\' :: c :: rest =>
    if c = '!' ∨ c = '#' then ⟨false, false, c :: rest⟩ else ⟨false, false, '\\' :: c :: rest⟩
  | '!' :: '/' :: rest => ⟨true, true, rest⟩
  | '!' :: rest => ⟨true, false, rest⟩
  | '/' :: rest => ⟨false, true, rest⟩
  | line => ⟨false, false, line⟩

def dropSlash (glob : List Char) : List Char :=
  match glob.reverse with
  | '/' :: '\\' :: rest => rest.reverse
  | '/' :: rest => rest.reverse
  | _ => glob

/-- A glob without a slash matches at any depth, and one that ends in `/**` only what is inside. -/
def globOf (m : Marked) : String :=
  let glob := dropSlash m.glob
  let isDeep := glob.take 3 == ['*', '*', '/'] || glob == ['*', '*']
  let glob := if !m.isAnchored && !glob.contains '/' && !isDeep then '*' :: '*' :: '/' :: glob
    else glob
  String.ofList (if ['/', '*', '*'].isSuffixOf glob then glob ++ ['/', '*'] else glob)

structure Fault where
  line : String
  fault : GlobFault
  deriving DecidableEq, Repr

def ofLine (line : String) : Except Fault (Option IgnoreRule) :=
  if line.toList.head? = some '#' then .ok none
  else
    match trimEnd line.toList with
    | [] => .ok none
    | line =>
      let m := unmark line
      match Glob.ofText (globOf m) with
      | .ok glob => .ok (some ⟨glob, m.isException⟩)
      | .error fault => .error ⟨String.ofList line, fault⟩

end IgnoreRule

end Reactor

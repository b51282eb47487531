import Reactor.Text.Quoted
import Reactor.Text.Blank

namespace Reactor

/-- A path keeps its text. Repeated slashes, inner `.` and a trailing slash do not count for the
place that it names. -/
structure Path where
  text : String
  deriving DecidableEq, Repr, Inhabited

/-- A step of a path. `here` is a leading `.`; inner ones are no steps. -/
inductive Component
  | root
  | here
  | up
  | name (text : String)
  deriving DecidableEq, Repr, Hashable

namespace Component

def text : Component → String
  | root => "/"
  | here => "."
  | up => ".."
  | name s => s

def ofSegment? : List Char → Option Component
  | [] => none
  | ['.'] => none
  | ['.', '.'] => some up
  | s => some (name (String.ofList s))

def name? : Component → Option String
  | name s => some s
  | _ => none

end Component

namespace Path

variable (p : Path)

def chars : List Char := p.text.toList

def isAbsolute : Bool := p.chars.head? == some '/'

/-- The components that segments stand for, each with the position in the text where it ends. -/
def segmentEnds : Nat → List (List Char) → List (Component × Nat)
  | _, [] => []
  | start, s :: rest =>
    let stop := start + s.length
    match Component.ofSegment? s with
    | some c => (c, stop) :: segmentEnds (stop + 1) rest
    | none => segmentEnds (stop + 1) rest

def componentEnds : List (Component × Nat) :=
  match p.chars with
  | [] => []
  | '/' :: cs => (.root, 1) :: segmentEnds 1 (Text.cut '/' cs)
  | cs =>
    match Text.cut '/' cs with
    | ['.'] :: rest => (.here, 1) :: segmentEnds 2 rest
    | segments => segmentEnds 0 segments

def components : List Component := p.componentEnds.map Prod.fst

def Same (p q : Path) : Prop := p.components = q.components

instance (p q : Path) : Decidable (Same p q) := inferInstanceAs (Decidable (_ = _))

/-- The text up to the last component but one; the root and the empty path have no parent. -/
def parent? : Option Path :=
  match p.componentEnds.reverse with
  | [] => none
  | (.root, _) :: _ => none
  | [_] => some ⟨""⟩
  | _ :: (_, stop) :: _ => some ⟨String.ofList (p.chars.take stop)⟩

def directory : Path := p.parent?.getD ⟨""⟩

def fileName? : Option String := p.components.getLast?.bind Component.name?

/-- An absolute second path stands alone; otherwise one slash joins the two. -/
def join (q : Path) : Path :=
  if q.isAbsolute then q
  else if p.text.isEmpty || p.chars.getLast? == some '/' then ⟨p.text ++ q.text⟩
  else ⟨p.text ++ "/" ++ q.text⟩

def quoted : String := Text.quoted p.text

def ofComponents : List Component → Path
  | .root :: cs => ⟨"/" ++ "/".intercalate (cs.map Component.text)⟩
  | cs => ⟨"/".intercalate (cs.map Component.text)⟩

/-- One step on the stack of components kept so far, last one first. A `..` takes away what lies
on the stack; with nothing to take away but the root it stays. -/
def push (stack : List Component) : Component → List Component
  | .root => [.root]
  | .here => stack
  | .up =>
    match stack with
    | [] => [.up]
    | .root :: rest => .up :: .root :: rest
    | _ :: rest => rest
  | .name s => .name s :: stack

def normalComponents : List Component := (p.components.foldl push []).reverse

def normalize : Path := ofComponents p.normalComponents

end Path

/-- The one name under which a directory holds its descriptor, whatever the case of its letters. -/
def descriptorFileName : String := "pom.xml"

def lowerAscii (s : String) : List Char := s.toList.map Char.toLower

def isDescriptorFileName (s : String) : Bool := lowerAscii s == descriptorFileName.toList

/-- Where a descriptor is: two paths with the same key name the same descriptor. -/
abbrev DescriptorKey := List Component

def foldFileName : Component → Component
  | .name s => if isDescriptorFileName s then .name descriptorFileName else .name s
  | c => c

def Path.descriptorKey (p : Path) : DescriptorKey :=
  match p.normalComponents.reverse with
  | [] => []
  | last :: rest => (foldFileName last :: rest).reverse

/-- The descriptor that a module entry of an aggregator in `directory` names: an entry that ends in
`.xml` is the file itself, any other is a directory that holds one. -/
def moduleDescriptorKey (directory : Path) (entry : String) : DescriptorKey :=
  let entry := Text.trim entry
  let path := directory.join ⟨entry⟩
  if ".xml".toList.isSuffixOf (lowerAscii entry) then path.descriptorKey
  else (path.join ⟨descriptorFileName⟩).descriptorKey

end Reactor

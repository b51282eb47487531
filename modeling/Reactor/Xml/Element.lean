import Reactor.Xml.Token

namespace Reactor.Xml

mutual

inductive Node
  | element (e : Element)
  | text (content : List Char)
  | comment
  | instruction

/-- An element with its name without prefix, the document from its opening tag on, and what follows
its closing tag there. -/
inductive Element
  | mk (name : String) (input rest : List Char) (children : List Node)

end

namespace Element

def name : Element → String
  | mk name _ _ _ => name

def children : Element → List Node
  | mk _ _ _ children => children

def input : Element → List Char
  | mk _ input _ _ => input

def rest : Element → List Char
  | mk _ _ rest _ => rest

end Element

namespace Node

def element? : Node → Option Element
  | element e => some e
  | _ => none

def text? : Node → Option (List Char)
  | text content => some content
  | _ => none

end Node

namespace Element

variable (e : Element)

def elements : List Element := e.children.filterMap Node.element?

def childrenNamed (name : String) : List Element := e.elements.filter (·.name == name)

def child? (name : String) : Option Element := e.elements.find? (·.name == name)

/-- The text of an element is its first child; a first child of another kind hides later text. -/
def text? : Option (List Char) := e.children.head?.bind Node.text?

end Element

namespace Namespace

def xml : String := "http://www.w3.org/XML/1998/namespace"

def xmlns : String := "http://www.w3.org/2000/xmlns/"

/-- Declarations in force, nearest first; the default one has no prefix. -/
abbrev Scope := List (Option String × String)

def declarations : List Attribute → Scope → Except Malformed (Scope × List Attribute)
  | [], declared => .ok (declared, [])
  | a :: rest, declared =>
    if a.name.pre = "xmlns" then
      if a.value = xmlns then .error .namespaceName
      else if (a.name.base = "xml") ≠ (a.value = xml) then .error .namespaceName
      else if declared.any (·.1 == some a.name.base) then .error .duplicateNamespace
      else if a.value = xml then declarations rest declared
      else declarations rest (declared ++ [(some a.name.base, a.value)])
    else if a.name.base = "xmlns" then
      if a.value = xml ∨ a.value = xmlns then .error .namespaceName
      else declarations rest (declared ++ [(none, a.value)])
    else do
      let (declared, others) ← declarations rest declared
      return (declared, a :: others)

def resolve (scope : Scope) (pre : String) : Except Malformed (Option String) :=
  match scope.find? fun d ↦ d.1 == if pre.isEmpty then none else some pre with
  | some d => .ok (some d.2)
  | none => if pre.isEmpty then .ok none else .error (.unknownPrefix pre)

/-- An attribute without prefix belongs to no namespace. -/
def resolveAttribute (scope : Scope) (name : QName) :
    Except Malformed (Option String × String) := do
  if name.pre = "xml" then return (some xml, name.base)
  if name.pre.isEmpty then return (none, name.base)
  return (← resolve scope name.pre, name.base)

def enter (outer : Scope) (name : QName) (attributes : List Attribute) :
    Except Malformed Scope := do
  if name.pre = "xmlns" then throw .namespaceName
  let (declared, others) ← declarations attributes []
  let scope := declared ++ outer
  let names ← others.mapM (resolveAttribute scope ·.name)
  if !names.Nodup then throw .duplicateAttribute
  let _ ← resolve scope name.pre
  return scope

end Namespace

/-- An element whose closing tag has not come yet; `children` holds the last one first. -/
structure Open where
  name : QName
  scope : Namespace.Scope
  input : List Char
  children : List Node

def addText (content : List Char) : List Node → List Node
  | .text before :: rest => .text (before ++ content) :: rest
  | nodes => .text content :: nodes

structure Builder where
  path : List Open
  root : Option Element

namespace Builder

def add (b : Builder) (node : Node) : Except Malformed Builder :=
  match b.path, node with
  | o :: path, _ => .ok { b with path := { o with children := node :: o.children } :: path }
  | [], .element e => if b.root.isSome then .error .outsideRoot else .ok { b with root := some e }
  | [], _ => .ok b

def step (b : Builder) (t : Located) : Except Malformed Builder :=
  match t.token with
  | .comment => b.add .comment
  | .instruction => b.add .instruction
  | .text content isBlank =>
    match b.path with
    | o :: path => .ok { b with path := { o with children := addText content o.children } :: path }
    | [] => if isBlank then .ok b else .error .outsideRoot
  | .opening name attributes isEmpty =>
    if b.path.isEmpty && b.root.isSome then .error .outsideRoot
    else do
      let scope ← Namespace.enter ((b.path.head?.map Open.scope).getD []) name attributes
      if isEmpty then b.add (.element (.mk name.base t.input t.rest []))
      else return { b with path := ⟨name, scope, t.input, []⟩ :: b.path }
  | .closing name =>
    match b.path with
    | [] => .error .outsideRoot
    | o :: path =>
      if o.name = name then
        { b with path }.add (.element (.mk name.base o.input t.rest o.children.reverse))
      else .error .closingTag

end Builder

def byteOrderMark : Char := '\ufeff'

def skipProlog (cs : List Char) : Except Malformed (List Char) :=
  let rest := if cs.head? = some byteOrderMark then cs.drop 1 else cs
  if startsWith "<?xml " rest then readDeclaration (rest.drop 5) else .ok rest

/-- A text is accepted when its tags nest, every prefix is declared and no tag carries one attribute
twice. -/
def Element.ofText (cs : List Char) : Except Malformed Element := do
  let tokens ← Token.scan (← skipProlog cs)
  let b ← tokens.foldlM Builder.step ⟨[], none⟩
  if !b.path.isEmpty then throw .unclosed
  match b.root with
  | some root => return root
  | none => throw .noRoot

def Element.source (e : Element) : List Char := e.input.take (e.input.length - e.rest.length)

end Reactor.Xml

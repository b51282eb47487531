import Reactor.Yaml.Node
import Reactor.Yaml.Number

namespace Reactor.Yaml

inductive Value
  | null
  | bool (b : Bool)
  | number (n : Number)
  | text (s : String)
  | sequence (items : List Value)
  | mapping (entries : List (Value × Value))
  | tagged (tag : String) (value : Value)

namespace Value

def unmarked (tag : String) : List Char :=
  match tag.toList with
  | '!' :: c :: cs => c :: cs
  | cs => cs

mutual

/-- Whether two values are one key: the entries of mappings may come in any order. -/
def same : Value → Value → Bool
  | null, null => true
  | bool a, bool b => a == b
  | number a, number b => a.same b
  | text a, text b => a == b
  | sequence as, sequence bs => sameItems as bs
  | mapping as, mapping bs => as.length == bs.length && coveredBy as bs
  | tagged s a, tagged t b => unmarked s == unmarked t && same a b
  | _, _ => false

def sameItems : List Value → List Value → Bool
  | [], [] => true
  | a :: as, b :: bs => same a b && sameItems as bs
  | _, _ => false

def coveredBy : List (Value × Value) → List (Value × Value) → Bool
  | [], _ => true
  | (k, v) :: as, bs => bs.any (fun (l, w) ↦ same k l && same v w) && coveredBy as bs

end

def hasKey (entries : List (Value × Value)) (key : Value) : Bool :=
  entries.any fun e ↦ same e.1 key

end Value

namespace Scalar

def null? (s : String) : Option Value :=
  if ["null", "Null", "NULL", "~"].contains s then some .null else none

def bool? (s : String) : Option Value :=
  if ["true", "True", "TRUE"].contains s then some (.bool true)
  else if ["false", "False", "FALSE"].contains s then some (.bool false)
  else none

def integer? (cs : List Char) : Except Malformed (Option Value) :=
  match readInteger cs with
  | .number n => .ok (some (.number (.integer n)))
  | .outOfRange => .error .wrongType
  | .none => .ok none

def float? (cs : List Char) : Option Value := (readFloat? cs).map .number

def untagged (cs : List Char) : Except Malformed Value := do
  let s := String.ofList cs
  if cs.isEmpty then return .null
  if let some v := (null? s).or (bool? s) then return v
  if let some v := ← integer? cs then return v
  return (if isZeroPadded cs then none else float? cs).getD (.text s)

def forced (v : Option Value) : Except Malformed Value :=
  match v with
  | some v => .ok v
  | none => .error .wrongType

def coreTag (name : String) : List Char := "tag:yaml.org,2002:".toList ++ name.toList

def value (tag : Option (List Char)) (isPlain : Bool) (cs : List Char) :
    Except Malformed Value := do
  let s := String.ofList cs
  match tag with
  | none => if isPlain then untagged cs else return .text s
  | some tag =>
    if tag = coreTag "bool" then forced (bool? s)
    else if tag = coreTag "int" then forced (← integer? cs)
    else if tag = coreTag "float" then forced (float? cs)
    else if tag = coreTag "null" then forced (null? s)
    else return .text s

end Scalar

def localTag? (tag : Option (List Char)) : Option String :=
  match tag with
  | some ['!'] => some "!"
  | some ('!' :: name) => some (String.ofList name)
  | _ => none

/-- How many more aliases may be followed. -/
abbrev Resolve := StateT Nat (Except Malformed)

namespace Document

variable (d : Document)

def maxDepth : Nat := 128

/-- An alias is followed to its node, up to a hundred times for each node of the document. -/
def follow (number : Nat) : Resolve Node := do
  match ← get with
  | 0 => throw .tooManyAliases
  | left + 1 =>
    set left
    match d.target? number with
    | some n => return n
    | none => throw .unknownAlias

def addEntry (entries : List (Value × Value)) (key : Value) (value : Resolve Value) :
    Resolve (List (Value × Value)) := do
  if Value.hasKey entries key then throw .duplicateKey
  return entries ++ [(key, ← value)]

def tagged (tag : Option (List Char)) (value : Value) : Value :=
  ((localTag? tag).map (.tagged · value)).getD value

/-- The value of a node inside at most `maxDepth - depth` collections. A scalar below a tag that is
kept is read as one without a tag. -/
def resolve : Nat → Node → Resolve Value
  | depth, n => do
    let n ← match n with
      | .alias number => d.follow number
      | n => pure n
    match n with
    | .alias _ => throw .unknownAlias
    | .scalar tag isPlain text =>
      match localTag? tag with
      | some name => return .tagged name (← Scalar.value none isPlain text)
      | none => Scalar.value tag isPlain text
    | .sequence tag items =>
      match depth with
      | 0 => throw .tooDeep
      | depth + 1 => return tagged tag (.sequence (← items.mapM (resolve depth)))
    | .mapping tag entries =>
      match depth with
      | 0 => throw .tooDeep
      | depth + 1 =>
        let entries ← entries.foldlM
          (fun done (k, v) ↦ do addEntry done (← resolve depth k) (resolve depth v)) []
        return tagged tag (.mapping entries)

def value : Except Malformed Value := (d.resolve maxDepth d.root).run' (100 * d.size)

end Document

def Value.readAll (text : String) : Except Malformed (List Value) := do
  (← Document.readAll text.toList).mapM Document.value

end Reactor.Yaml

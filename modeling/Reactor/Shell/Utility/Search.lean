import Reactor.Shell.Regex
import Reactor.Shell.Utility.File

namespace Reactor.Shell

namespace LineSearch

structure Query where
  patterns : List Regex
  foldsCase : Bool
  isWord : Bool
  isInverted : Bool

variable (q : Query)

def Query.subject (l : Octets) : Regex.Subject := ⟨l.toArray, q.foldsCase⟩

def Query.isWhole (l : Octets) (a b : Nat) : Bool :=
  let t := q.subject l
  !q.isWord || (!t.isWordBefore a && !t.isWordAt b)

/-- The bounds of the first of the longest matches in a line from a position on. -/
def Query.find? (l : Octets) (start : Nat) : Option (Nat × Nat) :=
  let t := q.subject l
  let all := q.patterns.filterMap fun r ↦
    (List.range (l.length + 1 - start)).findSome? fun k ↦
      (Regex.matchAt? t r (start + k)).bind fun p ↦
        if q.isWhole l (start + k) p.position then some (start + k, p.position) else none
  all.foldl (fun best m ↦ match best with
    | none => some m
    | some b => if m.1 < b.1 || (m.1 == b.1 && b.2 < m.2) then some m else some b) none

def Query.meets (l : Octets) : Bool := (q.find? l 0).isSome != q.isInverted

def Query.parts (l : Octets) : Nat → Nat → List Octets
  | 0, _ => []
  | n + 1, i =>
    match q.find? l i with
    | some (a, b) =>
      if b = a then if a < l.length then Query.parts l n (a + 1) else []
      else (l.drop a).take (b - a) :: Query.parts l n b
    | none => []

/-- Spreads marks onto so many places behind each of them; the last place is the first of the
result. -/
def spread (extent : Nat) (marks : List Bool) : List Bool :=
  (marks.foldl (fun (left, out) isMarked ↦
    (if isMarked then extent else left - 1, (isMarked || left > 0) :: out)) (0, [])).2

structure Numbered where
  text : Octets
  number : Nat
  isHit : Bool

def around (before behind : Nat) (lines : List Numbered) : List Numbered :=
  let marks := lines.map Numbered.isHit
  let isNear := (spread behind marks).reverse.zipWith (· || ·) (spread before marks.reverse)
  (lines.zip isNear).filterMap fun (l, isNear) ↦ if isNear then some l else none

def filesBelow (d : Disk) (follows : Bool) : Nat → Octets → List Octets
  | 0, _ => []
  | n + 1, directory =>
    let here := if directory.isEmpty then ['.'] else directory
    (Utility.namesIn d here false true).flatMap fun name ↦
      let path := if directory.isEmpty then name else Utility.inside directory name
      match d.kind? (pathOf path) with
      | some .directory => filesBelow d follows n path
      | some .link =>
        if !follows then []
        else if Utility.isDirectory d path then filesBelow d follows n path
        else [path]
      | some .file => if d.isFile (pathOf path) then [path] else []
      | none => []

def depthLimit : Nat := 100

def filesOf (d : Disk) (o : Options) (operands : List Octets) : List Octets × Bool :=
  let isRecursive := o.has 'r' || o.has 'R'
  let isDeep (w : Octets) : Bool := isRecursive && w ≠ ['-'] && Utility.isDirectory d w
  let files := if operands.isEmpty then
      if isRecursive then filesBelow d (o.has 'R') depthLimit [] else [['-']]
    else operands.flatMap fun w ↦ if isDeep w then filesBelow d (o.has 'R') depthLimit w else [w]
  let isNamed := operands.length > 1 || (operands.isEmpty && isRecursive) || operands.any isDeep
  (files, o.last? "hH" == some 'H' || (isNamed && !o.has 'h'))

def separator : Octets := ['-', '-', '\n']

/-- How a file's lines are shown: after its name, with their numbers, in groups of neighbours. -/
structure Layout where
  name : Option Octets
  isNumbered : Bool
  isGrouped : Bool

def Layout.lead (y : Layout) (number : Nat) (mark : Char) : Octets :=
  (y.name.map (· ++ [mark])).getD []
    ++ if y.isNumbered then (toString number).toList ++ [mark] else []

def Layout.shown (y : Layout) (lines : List Numbered) : Octets :=
  (lines.zip (none :: lines.map some)).flatMap fun (l, previous?) ↦
    (if y.isGrouped && previous?.any (·.number + 1 < l.number) then separator else [])
      ++ y.lead l.number (if l.isHit then ':' else '-') ++ l.text ++ ['\n']

end LineSearch

namespace Utility

open Run LineSearch

def grepTable : OptionTable where
  flags := "EFGPivclLnqshHowxzarR"
  valued := "efmABC"
  long := [("regexp", 'e'), ("file", 'f'), ("ignore-case", 'i'), ("invert-match", 'v'),
    ("count", 'c'), ("files-with-matches", 'l'), ("files-without-match", 'L'),
    ("line-number", 'n'), ("quiet", 'q'), ("silent", 'q'), ("no-messages", 's'),
    ("no-filename", 'h'), ("with-filename", 'H'), ("only-matching", 'o'), ("word-regexp", 'w'),
    ("line-regexp", 'x'), ("extended-regexp", 'E'), ("fixed-strings", 'F'),
    ("basic-regexp", 'G'), ("max-count", 'm'), ("text", 'a'), ("after-context", 'A'),
    ("before-context", 'B'), ("context", 'C'), ("recursive", 'r'),
    ("dereference-recursive", 'R')]

/-- A count such as `-3` asks for so many lines around. -/
def modernContext (ws : List Octets) : List Octets :=
  ws.flatMap fun w ↦ match w with
    | '-' :: c :: cs => if (c :: cs).all Char.isDigit then [['-', 'C'], c :: cs] else [w]
    | _ => [w]

def grepWith (kind : Char) : Utility := fun ws ↦
  (modernContext ws) |> withOptions grepTable 2 fun o ↦ do
    let kind := (o.last? "EFGP").getD kind
    let given ← (o.given.filter fun g ↦ g.1 == 'e' || g.1 == 'f').mapM fun (c, v) ↦ do
      if c = 'e' then return some (Text.cut '\n' v)
      else return (← inputOf? v).map plainLines
    let (sources, operands) := if given.isEmpty then ([o.operands.head?.map (Text.cut '\n')],
        o.operands.tail)
      else (given, o.operands)
    let read (cs : Octets) : Option Regex :=
      if kind = 'F' then some (cs.foldr (fun c r ↦ .join (.one (RegexReader.octets [c])) r) .empty)
      else (RegexReader.read? (kind != 'G') cs).map Prod.fst
    let extent? (c : Char) : Option Nat :=
      match (o.value? c).or (o.value? 'C') with
      | some v => natural? v
      | none => some 0
    match (sources.mapM id).bind fun ls ↦ ls.flatten.mapM read, extent? 'B', extent? 'A' with
    | some patterns, some before, some behind =>
      let whole (r : Regex) : Regex := .join .lineStart (.join r .lineEnd)
      let query : Query :=
        { patterns := if o.has 'x' then patterns.map whole else patterns
          foldsCase := o.has 'i'
          isWord := o.has 'w' && !o.has 'x'
          isInverted := o.has 'v' }
      let (files, isNamed) := filesOf (← disk) o operands
      let limit := (o.value? 'm').bind natural?
      let mut any := false
      let mut isRefused := false
      let mut isLater := false
      for file in files do
        match ← inputOf? file with
        | none => isRefused := true
        | some text =>
          let lines := (plainLines text).zipIdx 1 |>.map fun (l, n) ↦
            (⟨l, n, query.meets l⟩ : Numbered)
          let hits := lines.filter Numbered.isHit
          let hits := match limit with
            | some k => hits.take k
            | none => hits
          let name := if file = ['-'] then "(standard input)".toList else file
          if o.has 'L' then
            if hits.isEmpty then
              any := true
              if !o.has 'q' then emit (name ++ ['\n'])
          else
            if !hits.isEmpty then any := true
            let layout : Layout :=
              ⟨if isNamed then some name else none, o.has 'n', ['A', 'B', 'C'].any o.has⟩
            if o.has 'q' then pure ()
            else if o.has 'l' then
              if !hits.isEmpty then emit (name ++ ['\n'])
            else if o.has 'c' then
              let lead := { layout with isNumbered := false }.lead 0 ':'
              emit (lead ++ (toString hits.length).toList ++ ['\n'])
            else if o.has 'o' then
              if !o.has 'v' then
                emit (hits.flatMap fun l ↦ (query.parts l.text (l.text.length + 1) 0).flatMap
                  (layout.lead l.number ':' ++ · ++ ['\n']))
            else
              let last := (hits.getLast?.map Numbered.number).getD 0
              let lines := if limit.isNone then lines else
                (lines.filter (·.number ≤ last + behind)).map fun l ↦
                  { l with isHit := l.isHit && l.number ≤ last }
              if layout.isGrouped && isLater && !hits.isEmpty then emit separator
              emit (layout.shown (around before behind lines))
              if !hits.isEmpty then isLater := true
      setStatus (if any && (o.has 'q' || !isRefused) then 0 else if isRefused then 2 else 1)
    | _, _, _ => setStatus 2

end Utility

end Reactor.Shell

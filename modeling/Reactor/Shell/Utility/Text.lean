import Reactor.Shell.Format
import Reactor.Shell.Utility.Option

namespace Reactor.Shell

open Run

namespace Utility

def column (width n : Nat) : Octets :=
  let text := (toString n).toList
  List.replicate (width - text.length) ' ' ++ text

def visible (showsTabs : Bool) (c : Char) : Octets :=
  let low (n : Nat) : Octets :=
    if n < 32 then ['^', Char.ofNat (n + 64)] else if n = 127 then ['^', '?'] else [Char.ofNat n]
  if c = '\n' ∨ (c = '\t' ∧ !showsTabs) then [c]
  else if c.toNat < 128 then low c.toNat
  else ['M', '-'] ++ low (c.toNat - 128)

def numbered (skipsEmpty : Bool) : Nat → List (Octets × Bool) → List Octets
  | _, [] => []
  | n, (line, isEnded) :: rest =>
    let ending := if isEnded then ['\n'] else []
    if skipsEmpty && line.isEmpty then ending :: numbered skipsEmpty n rest
    else (column 6 n ++ '\t' :: line ++ ending) :: numbered skipsEmpty (n + 1) rest

def squeezed : Bool → List (Octets × Bool) → List (Octets × Bool)
  | _, [] => []
  | wasEmpty, l :: rest =>
    if l.1.isEmpty && wasEmpty then squeezed true rest else l :: squeezed l.1.isEmpty rest

def cat : Utility :=
  withOptions { flags := "nbsETAvetu", long := [("number", 'n'), ("number-nonblank", 'b'),
      ("squeeze-blank", 's'), ("show-ends", 'E'), ("show-tabs", 'T'), ("show-all", 'A'),
      ("show-nonprinting", 'v')] } 1 fun o ↦ do
    let mut all : List Octets := []
    let mut isFailed := false
    for operand in (if o.operands.isEmpty then [['-']] else o.operands) do
      match ← inputOf? operand with
      | some text => all := text :: all
      | none => isFailed := true
    let text := all.reverse.flatten
    let showsEnds := o.has 'E' || o.has 'A' || o.has 'e'
    let showsTabs := o.has 'T' || o.has 'A' || o.has 't'
    let showsAll := o.has 'v' || o.has 'A' || o.has 'e' || o.has 't'
    let lines := linesOf text
    let lines := if o.has 's' then squeezed false lines else lines
    let lines := lines.map fun (l, isEnded) ↦
      let l := if showsAll then l.flatMap (visible showsTabs)
        else if showsTabs then l.flatMap fun c ↦ if c = '\t' then ['^', 'I'] else [c] else l
      (if showsEnds && isEnded then l ++ ['$'] else l, isEnded)
    let plain := lines.flatMap fun (l, isEnded) ↦ l ++ if isEnded then ['\n'] else []
    let isNumbered := o.has 'n' || o.has 'b'
    setStatus (if isFailed then 1 else 0)
    emit (if isNumbered then (numbered (o.has 'b') 1 lines).flatten else plain)

def takeLines (n : Nat) (cs : Octets) : Octets :=
  ((linesOf cs).take n).flatMap fun (l, isEnded) ↦ l ++ if isEnded then ['\n'] else []

structure Extent where
  isOctets : Bool
  sign : Option Char
  count : Nat

def extent? (isOctets : Bool) (cs : Octets) : Option Extent :=
  match cs with
  | '-' :: rest => (count? rest).map (⟨isOctets, some '-', ·⟩)
  | '+' :: rest => (count? rest).map (⟨isOctets, some '+', ·⟩)
  | _ => (count? cs).map (⟨isOctets, none, ·⟩)

def modernCount : List Octets → List Octets
  | ('-' :: c :: cs) :: rest =>
    if c.isDigit && (c :: cs).all Char.isDigit then ['-', 'n'] :: (c :: cs) :: rest
    else ('-' :: c :: cs) :: rest
  | ws => ws

def extentOf? (o : Options) : Option Extent :=
  match o.given.reverse.find? fun g ↦ g.1 == 'n' || g.1 == 'c' with
  | some (c, value) => extent? (c == 'c') value
  | none => some ⟨false, none, 10⟩

def extentTable : OptionTable where
  flags := "qvz"
  valued := "nc"
  long := [("lines", 'n'), ("bytes", 'c'), ("quiet", 'q'), ("silent", 'q'), ("verbose", 'v')]

def headOf (e : Extent) (cs : Octets) : Octets :=
  match e.isOctets, e.sign with
  | true, some '-' => cs.take (cs.length - e.count)
  | true, _ => cs.take e.count
  | false, some '-' => takeLines ((linesOf cs).length - e.count) cs
  | false, _ => takeLines e.count cs

def tailOf (e : Extent) (cs : Octets) : Octets :=
  let onward (start : Nat) : Octets := cs.drop (takeLines start cs).length
  match e.isOctets, e.sign with
  | true, some '+' => cs.drop (e.count - 1)
  | true, _ => cs.drop (cs.length - e.count)
  | false, some '+' => onward (e.count - 1)
  | false, _ => onward ((linesOf cs).length - e.count)

/-- The part of the input that comes first. What is not needed is given back where that can be. -/
def firstOfInput (part : Octets → Octets) : Run (Option Octets) := do
  match ← left? 0 with
  | none => return none
  | some text =>
    let first := part text
    if first.length < text.length then
      let isSeekable ← isSeekable 0
      consume 0 (if isSeekable then first.length else text.length)
      return some first
    else return (← readAll? 0).map part

/-- Prints a part of each input; several inputs are headed by their names. -/
def partOf (isFirstPart : Bool) (part : Octets → Octets) (o : Options) : Run Unit := do
  let isHeaded := o.last? "qv" == some 'v' || (o.operands.length > 1 && !o.has 'q')
  let mut isFirst := true
  let mut status := 0
  for operand in (if o.operands.isEmpty then [['-']] else o.operands) do
    let isInput := operand = ['-']
    let found ← readingFrom operand
      (if isFirstPart then firstOfInput part else do return (← readAll? 0).map part)
    match found with
    | some text =>
      if isHeaded then
        let name := if isInput then "standard input".toList else operand
        emit ((if isFirst then [] else ['\n']) ++ "==> ".toList ++ name ++ " <==\n".toList)
      emit text
      isFirst := false
    | none => status := 1
  setStatus status

def head : Utility := fun ws ↦
  withOptions extentTable 1 (fun o ↦
    match extentOf? o with
    | some e => partOf true (headOf e) o
    | none => setStatus 1) (modernCount ws)

def tail : Utility := fun ws ↦
  withOptions { extentTable with flags := "qvzfF" } 1 (fun o ↦
    match extentOf? o with
    | some e => partOf false (tailOf e) o
    | none => setStatus 1) (modernCount ws)

def wordCount (cs : Octets) : Nat :=
  (cs.foldl (fun (n, isIn) c ↦
    if Arithmetic.isSpace c then (n, false) else if isIn then (n, true) else (n + 1, true))
    (0, false)).1

def longestLine (cs : Octets) : Nat := (plainLines cs).foldl (fun n l ↦ max n l.length) 0

def wc : Utility :=
  withOptions { flags := "lwcmL", long := [("lines", 'l'), ("words", 'w'), ("bytes", 'c'),
      ("chars", 'm'), ("max-line-length", 'L')] } 1 fun o ↦ do
    let letters := "lwmcL".toList.filter o.has
    let letters := if letters.isEmpty then ['l', 'w', 'c'] else letters
    let countOf (cs : Octets) (c : Char) : Nat := match c with
      | 'l' => cs.count '\n'
      | 'w' => wordCount cs
      | 'L' => longestLine cs
      | _ => cs.length
    let operands := if o.operands.isEmpty then [['-']] else o.operands
    let mut rows : List (List Nat × Octets) := []
    let mut size := 0
    let mut isPlain := true
    let mut status := 0
    for operand in operands do
      if operand = ['-'] && !(← isSeekable 0) then isPlain := false
      match ← inputOf? operand with
      | some text =>
        size := size + text.length
        rows := (letters.map (countOf text), operand) :: rows
      | none => status := 1
    let totals := (List.range letters.length).map fun i ↦
      rows.foldl (fun n r ↦ n + (r.1[i]?.getD 0)) 0
    let table := rows.reverse ++
      if operands.length > 1 then [(totals, "total".toList)] else []
    let width := if letters.length = 1 && operands.length = 1 then 1
      else if isPlain then (toString size).length else 7
    setStatus status
    for (counts, name) in table do
      let text := [' '].intercalate (counts.map (column width))
      emit (text ++ (if o.operands.isEmpty then [] else ' ' :: name) ++ ['\n'])

def setOctets : Nat → Octets → Option Octets
  | 0, _ => some []
  | _ + 1, [] => some []
  | n + 1, cs =>
    match (match cs with
      | '[' :: rest => namedClass? rest
      | _ => none) with
    | some (ranges, rest) =>
      let members := ranges.flatMap fun (a, b) ↦
        (List.range (b.toNat + 1 - a.toNat)).map fun k ↦ Char.ofNat (a.toNat + k)
      (setOctets n rest).map (members ++ ·)
    | none =>
      let one (cs : Octets) : Char × Octets := match cs with
        | '\\' :: rest => escape rest
        | c :: rest => (c, rest)
        | [] => (' ', [])
      let (low, rest) := one cs
      match rest with
      | '-' :: d :: more =>
        let (high, rest) := one (d :: more)
        if high < low then none
        else
          (setOctets n rest).map ((List.range (high.toNat + 1 - low.toNat)).map
            (fun k ↦ Char.ofNat (low.toNat + k)) ++ ·)
      | rest => (setOctets n rest).map (low :: ·)

def setOf (cs : Octets) : Option Octets := setOctets (cs.length + 1) cs

def squeeze (set : Octets) : Octets → Octets
  | c :: d :: cs =>
    if c = d && set.contains c then squeeze set (d :: cs) else c :: squeeze set (d :: cs)
  | cs => cs

/-- What an octet is changed to; the last one of a set stands for all further ones. -/
def translate (first second : Octets) (c : Char) : Char :=
  match first.reverse.findIdx? (· == c) with
  | some k => (second[first.length - 1 - k]?).getD (second.getLast?.getD c)
  | none => c

def tr : Utility :=
  withOptions { flags := "dscCt", stops := true, long := [("delete", 'd'), ("squeeze-repeats", 's'),
      ("complement", 'c'), ("truncate-set1", 't')] } 1 fun o ↦ do
    let inverts := o.has 'c' || o.has 'C'
    let all : Octets := (List.range 256).map Char.ofNat
    let complete (set : Octets) := if inverts then all.filter (!set.contains ·) else set
    match o.operands.mapM setOf with
    | none => setStatus 1
    | some sets =>
      let deletes := o.has 'd'
      let squeezes := o.has 's'
      match sets with
      | [set] =>
        if !deletes && !squeezes || deletes && squeezes then setStatus 1
        else
          let set := complete set
          let text := (← readAll? 0).getD []
          setStatus 0
          emit (if deletes then text.filter (!set.contains ·) else squeeze set text)
      | [first, second] =>
        if deletes && !squeezes || !deletes && second.isEmpty then setStatus 1
        else
          let first := complete first
          let text := (← readAll? 0).getD []
          setStatus 0
          if deletes then emit (squeeze second (text.filter (!first.contains ·)))
          else
            let first := if o.has 't' then first.take second.length else first
            let changed := text.map (translate first second)
            emit (if squeezes then squeeze second changed else changed)
      | _ => setStatus 1

def positions? (cs : Octets) : Option (List (Nat × Option Nat)) :=
  (Text.cut ',' cs).mapM fun part ↦
    match Text.cutFirst? '-' part with
    | none => (natural? part).bind fun n ↦ if n = 0 then none else some (n, some n)
    | some ([], high) => (natural? high).map fun h ↦ (1, some h)
    | some (low, []) => (natural? low).bind fun l ↦ if l = 0 then none else some (l, none)
    | some (low, high) => do
      let l ← natural? low
      let h ← natural? high
      if l = 0 ∨ h < l then none else some (l, some h)

def isNamed (ranges : List (Nat × Option Nat)) (n : Nat) : Bool :=
  ranges.any fun (low, high) ↦ low ≤ n && high.all (n ≤ ·)

def atPositions {α : Type} (wanted : Nat → Bool) (items : List α) : List α :=
  ((items.zipIdx 1).filter fun (_, n) ↦ wanted n).map Prod.fst

def cut : Utility :=
  withOptions { flags := "snz", valued := "dfcbo", long := [("delimiter", 'd'), ("fields", 'f'),
      ("characters", 'c'), ("bytes", 'b'), ("only-delimited", 's'), ("output-delimiter", 'o'),
      ("complement", 'n')] } 1 fun o ↦ do
    match o.given.filter (fun g ↦ "fcb".toList.contains g.1) with
    | [(kind, list)] =>
      match positions? list, (o.value? 'd').getD ['\t'] with
      | some ranges, [delimiter] =>
        let wanted (n : Nat) := isNamed ranges n != o.has 'n'
        let between := (o.value? 'o').getD (if kind = 'f' then [delimiter] else [])
        if kind ≠ 'f' ∧ (o.has 'd' || o.has 's') then setStatus 1
        else forInputs o.operands 1 fun _ text ↦ do
          emit (endedLines ((plainLines text).filterMap fun line ↦
            if kind = 'f' then
              if line.contains delimiter then
                some (between.intercalate (atPositions wanted (Text.cut delimiter line)))
              else if o.has 's' then none else some line
            else some (atPositions wanted line)))
      | _, _ => setStatus 1
    | _ => setStatus 1

structure SortKey where
  start : Nat
  startOctet : Nat
  stop : Option (Nat × Nat)
  letters : List Char

def sortKey? (cs : Octets) : Option SortKey := do
  let place (cs : Octets) : Option (Nat × Nat × List Char) := do
    let field := cs.takeWhile Char.isDigit
    let n ← natural? field
    match cs.drop field.length with
    | '.' :: rest =>
      let octet := rest.takeWhile Char.isDigit
      return (n, ← natural? octet, rest.drop octet.length)
    | rest => return (n, 0, rest)
  let (first, last) := (Text.cutFirst? ',' cs).map (fun (a, b) ↦ (a, some b)) |>.getD (cs, none)
  let (n, octet, letters) ← place first
  if n = 0 then none
  match last with
  | none => return ⟨n, octet, none, letters⟩
  | some last =>
    let (m, octetEnd, more) ← place last
    return ⟨n, octet, some (m, octetEnd), letters ++ more⟩

/-- The fields of a line; blanks before a field belong to it unless a separator is given. -/
def sortFields (separator : Option Char) (line : Octets) : List Octets :=
  match separator with
  | some c => Text.cut c line
  | none =>
    let isBlank (c : Char) := c == ' ' || c == '\t'
    let (done, current) := line.foldl (fun (done, current) c ↦
      if isBlank c && current.any (!isBlank ·) then (current.reverse :: done, [c])
      else (done, c :: current)) (([] : List Octets), ([] : Octets))
    (current.reverse :: done).reverse

def SortKey.of (k : SortKey) (separator : Option Char) (line : Octets) : Octets :=
  let fields := sortFields separator line
  let glue : Octets := separator.toList
  let upTo (n : Nat) : List Octets := match k.stop with
    | some (m, octetEnd) =>
      let whole := (fields.take m).drop (n - 1)
      if octetEnd = 0 then whole
      else whole.dropLast ++ (whole.getLast?.map (·.take octetEnd)).toList
    | none => fields.drop (n - 1)
  (glue.intercalate (upTo k.start)).drop (k.startOctet - 1)

/-- The number in front of a text, in tenths of a thousandth. -/
def sortNumber (cs : Octets) : Int :=
  let cs := cs.dropWhile fun c ↦ c == ' ' || c == '\t'
  let (isNegative, body) := match cs with
    | '-' :: rest => (true, rest)
    | _ => (false, cs)
  let whole := body.takeWhile Char.isDigit
  let part := match body.drop whole.length with
    | '.' :: rest => rest.takeWhile Char.isDigit
    | _ => []
  let n := (natural? (whole ++ ((part ++ List.replicate 9 '0').take 9))).getD 0
  if isNegative then -(n : Int) else n

/-- Compares by letters: numbers, letters in any case, blanks in front, only some octets. -/
def compareKeys (letters : List Char) (a b : Octets) : Ordering :=
  let tidy (cs : Octets) : Octets :=
    let cs := if letters.contains 'b' then cs.dropWhile fun c ↦ c == ' ' || c == '\t' else cs
    let cs := if letters.contains 'd' then cs.filter fun c ↦ c.isAlphanum || c == ' ' || c == '\t'
      else cs
    if letters.contains 'f' then cs.map Char.toUpper else cs
  let o := if letters.contains 'n' || letters.contains 'g' || letters.contains 'h' then
      compare (sortNumber a) (sortNumber b)
    else compare (String.ofList (tidy a)) (String.ofList (tidy b))
  if letters.contains 'r' then o.swap else o

def compareLines (keys : List SortKey) (letters : List Char) (separator : Option Char)
    (a b : Octets) : Ordering :=
  if keys.isEmpty then compareKeys letters a b
  else
    keys.foldl (fun o k ↦ o.then
      (compareKeys (if k.letters.isEmpty then letters else k.letters) (k.of separator a)
        (k.of separator b))) .eq

def firstOfEqual (isEqual : Octets → Octets → Bool) : List Octets → List Octets
  | a :: b :: rest =>
    if isEqual a b then firstOfEqual isEqual (a :: rest) else a :: firstOfEqual isEqual (b :: rest)
  | ls => ls
termination_by ls => ls.length

def sort : Utility :=
  withOptions { flags := "rnufbcCsdghiz", valued := "ktoS", long := [("reverse", 'r'),
      ("numeric-sort", 'n'), ("unique", 'u'), ("ignore-case", 'f'),
      ("ignore-leading-blanks", 'b'), ("key", 'k'), ("field-separator", 't'), ("output", 'o'),
      ("stable", 's'), ("check", 'c'), ("dictionary-order", 'd'),
      ("general-numeric-sort", 'g'), ("human-numeric-sort", 'h')] } 2 fun o ↦ do
    let keys? := (o.given.filter (·.1 == 'k')).mapM fun g ↦ sortKey? g.2
    let separator? : Option (Option Char) := match o.value? 't' with
      | none => some none
      | some [c] => some (some c)
      | some ['\\', '0'] => some (some '\x00')
      | some _ => none
    match keys?, separator? with
    | some keys, some separator =>
      let letters := "rnfbdgh".toList.filter o.has
      match ← allInput o.operands 2 with
      | none => return
      | some text =>
        let lines := plainLines text
        let order := compareLines keys letters separator
        let isPlain := o.has 'u' || o.has 's' || (keys.isEmpty && letters.isEmpty)
        let last (a b : Octets) : Ordering :=
          let c := compare (String.ofList a) (String.ofList b)
          if isPlain then .eq else if letters.contains 'r' then c.swap else c
        let sorted := lines.mergeSort fun a b ↦ ((order a b).then (last a b)).isLE
        if o.has 'c' || o.has 'C' then
          let bad := (lines.zip lines.tail).any fun (a, b) ↦
            let c := (order a b).then (last a b)
            c == .gt || (o.has 'u' && c == .eq)
          setStatus (if bad then 1 else 0)
        else
          let result :=
            if o.has 'u' then firstOfEqual (fun a b ↦ order a b == .eq) sorted else sorted
          match o.value? 'o' with
          | none => emit (endedLines result)
          | some file =>
            match ← openFile file .writes with
            | .error _ => setStatus 2
            | .ok id =>
              let before ← descriptorId? 1
              setDescriptor 1 (some id)
              emit (endedLines result)
              setDescriptor 1 before
    | _, _ => setStatus 2

def groupsOf (isEqual : Octets → Octets → Bool) : List Octets → List (List Octets)
  | [] => []
  | l :: ls =>
    match groupsOf isEqual ls with
    | (m :: g) :: rest => if isEqual l m then (l :: m :: g) :: rest else [l] :: (m :: g) :: rest
    | rest => [l] :: rest

def uniq : Utility :=
  withOptions { flags := "cduiDz", valued := "fsw", long := [("count", 'c'), ("repeated", 'd'),
      ("unique", 'u'), ("ignore-case", 'i'), ("skip-fields", 'f'), ("skip-chars", 's'),
      ("check-chars", 'w')] } 1 fun o ↦ do
    let number (c : Char) : Nat := ((o.value? c).bind natural?).getD 0
    let skipField (cs : Octets) : Octets :=
      (cs.dropWhile fun c ↦ c == ' ' || c == '\t').dropWhile fun c ↦ !(c == ' ' || c == '\t')
    let key (cs : Octets) : Octets :=
      let cs := ((List.range (number 'f')).foldl (fun cs _ ↦ skipField cs) cs).drop (number 's')
      let cs := if o.has 'w' then cs.take (number 'w') else cs
      if o.has 'i' then cs.map Char.toLower else cs
    match ← allInput (o.operands.take 1) 1 with
    | none => return
    | some text =>
      let groups := groupsOf (fun a b ↦ key a == key b) (plainLines text)
      let kept := groups.filter fun g ↦
        (!o.has 'd' || g.length > 1) && (!o.has 'u' || g.length = 1)
      let lines := kept.map fun g ↦
        if o.has 'c' then column 7 g.length ++ ' ' :: g.headD [] else g.headD []
      match o.operands.drop 1 with
      | [] => emit (endedLines lines)
      | file :: _ =>
        match ← openFile file .writes with
        | .error _ => setStatus 1
        | .ok id =>
          let before ← descriptorId? 1
          setDescriptor 1 (some id)
          emit (endedLines lines)
          setDescriptor 1 before

def tee : Utility :=
  withOptions { flags := "aip", long := [("append", 'a'), ("ignore-interrupts", 'i')] } 1 fun o ↦ do
    let text := (← readAll? 0).getD []
    setStatus 0
    for file in o.operands do
      match ← openFile file (if o.has 'a' then .appends else .writes) with
      | .error _ => setStatus 1
      | .ok id =>
        let before ← descriptorId? 1
        setDescriptor 1 (some id)
        emit text
        setDescriptor 1 before
    emit text

structure Copying where
  source : Option Octets := none
  target : Option Octets := none
  inputBlock : Nat := 512
  skipped : Nat := 0
  count : Option Nat := none
  conversions : List Octets := []

def Copying.read? : Copying → List Octets → Option Copying
  | c, [] => some c
  | c, w :: ws => do
    let name := w.takeWhile (· != '=')
    let value := w.drop (name.length + 1)
    let size? := (count? value).filter (0 < ·)
    let c ← match String.ofList name with
      | "if" => some { c with source := some value }
      | "of" => some { c with target := some value }
      | "bs" | "ibs" => size?.map ({ c with inputBlock := · })
      | "obs" | "cbs" => size?.map fun _ ↦ c
      | "count" => (count? value).map fun n ↦ { c with count := some n }
      | "skip" | "iseek" => (count? value).map ({ c with skipped := · })
      | "conv" => some { c with conversions := Text.cut ',' value }
      | "status" | "iflag" | "oflag" => some c
      | _ => none
    Copying.read? c ws

def Copying.has (c : Copying) (name : String) : Bool := c.conversions.contains name.toList

def Copying.part (c : Copying) (input : Octets) : Octets :=
  let rest := input.drop (c.skipped * c.inputBlock)
  let part := match c.count with
    | some n => rest.take (n * c.inputBlock)
    | none => rest
  if c.has "ucase" then part.map Char.toUpper
  else if c.has "lcase" then part.map Char.toLower
  else part

def dd : Utility := fun ws ↦ do
  match Copying.read? {} ws with
  | none => setStatus 1
  | some c =>
    let read : Run (Option Octets) :=
      match c.count with
      | none => readAll? 0
      | some n => do
        let left ← left? 0
        consume 0 (min (left.getD []).length ((c.skipped + n) * c.inputBlock))
        return left
    let input? ← match c.source with
      | some file => if file = ['-'] then pure none else readingFrom file read
      | none => read
    match input? with
    | none => setStatus 1
    | some input =>
      setStatus 0
      match c.target with
      | none => emit (c.part input)
      | some file =>
        match ← openFile file (if c.has "notrunc" then .changes else .writes) with
        | .error _ => setStatus 1
        | .ok id =>
          let before ← descriptorId? 1
          setDescriptor 1 (some id)
          emit (c.part input)
          setDescriptor 1 before

def decimal? (cs : Octets) : Option (Int × Nat) :=
  let (isNegative, body) := match cs with
    | '-' :: rest => (true, rest)
    | '+' :: rest => (false, rest)
    | _ => (false, cs)
  let whole := body.takeWhile Char.isDigit
  let part? := match body.drop whole.length with
    | [] => some []
    | '.' :: rest => if rest.all Char.isDigit then some rest else none
    | _ => none
  part?.bind fun part ↦
    if whole.isEmpty && part.isEmpty then none
    else
      let n : Int := (natural? (whole ++ part)).getD 0
      some (if isNegative then -n else n, part.length)

def decimalText (n : Int) (places : Nat) : Octets :=
  (if n < 0 then ['-'] else []) ++ fixedDigits n.natAbs (Nat.pow 10 places) places false

def seqLimit : Nat := 1000000

def isSigned (w : Octets) : Bool := (decimal? w).isSome

def seq : Utility := fun ws ↦ do
  let isOption (w : Octets) : Bool := w.head? == some '-' && !isSigned w
  let rec options : Nat → List Octets → Option (Octets × Bool × Option Octets × List Octets)
    | 0, _ => none
    | n + 1, ws => match ws with
      | ['-', 's'] :: s :: rest => (options n rest).map fun r ↦ (s, r.2)
      | ['-', 'w'] :: rest => (options n rest).map fun r ↦ (r.1, true, r.2.2)
      | ['-', 'f'] :: f :: rest => (options n rest).map fun r ↦ (r.1, r.2.1, some f, r.2.2.2)
      | ['-', '-'] :: rest => some (['\n'], false, none, rest)
      | ('-' :: 's' :: s) :: rest => (options n rest).map fun r ↦ (s, r.2)
      | rest => if rest.head?.any isOption then none else some (['\n'], false, none, rest)
  match options (ws.length + 1) ws with
  | none => setStatus 1
  | some (separator, isEven, format, numbers) =>
    match numbers.mapM decimal? with
    | some ds =>
      let triple? := match ds with
        | [last] => some ((1, 0), (1, 0), last)
        | [first, last] => some (first, (1, 0), last)
        | [first, step, last] => some (first, step, last)
        | _ => none
      match triple? with
      | none => setStatus 1
      | some (first, step, last) =>
        let places := max first.2 step.2
        let scale := max places last.2
        let scaled (d : Int × Nat) : Int := d.1 * Nat.pow 10 (scale - d.2)
        let (a, s, b) := (scaled first, scaled step, scaled last)
        if s = 0 then setStatus 1
        else
          let count := if s > 0 then (if b < a then 0 else ((b - a) / s).toNat + 1)
            else (if a < b then 0 else ((a - b) / -s).toNat + 1)
          let values := (List.range (min count seqLimit)).map fun (k : Nat) ↦ a + s * (k : Int)
          let text (v : Int) := decimalText (v / Nat.pow 10 (scale - places)) places
          let texts := values.map text
          let width := texts.foldl (fun n t ↦ max n t.length) 0
          let widened (t : Octets) : Octets := match t with
            | '-' :: ds => '-' :: List.replicate (width - t.length) '0' ++ ds
            | ds => List.replicate (width - t.length) '0' ++ ds
          let texts := match format with
            | some f => texts.map fun t ↦ (formatted f [t]).1
            | none => if isEven then texts.map widened else texts
          setStatus 0
          if !texts.isEmpty then emit (separator.intercalate texts ++ ['\n'])
    | none => setStatus 1

def dropSlashes (cs : Octets) : Octets :=
  match (cs.reverse.dropWhile (· == '/')).reverse with
  | [] => cs.take 1
  | cs => cs

def lastName (cs : Octets) : Octets :=
  let cs := dropSlashes cs
  if cs = ['/'] then cs else (cs.reverse.takeWhile (· != '/')).reverse

def directoryName (cs : Octets) : Octets :=
  let cs := dropSlashes cs
  match cs.reverse.dropWhile (· != '/') with
  | [] => ['.']
  | rest => if cs = ['/'] then cs else dropSlashes rest.reverse

def withoutEnding (ending name : Octets) : Octets :=
  if ending ≠ name then (Text.dropSuffix? ending name).getD name else name

def basename : Utility :=
  withOptions { flags := "az", valued := "s", stops := true, long := [("multiple", 'a'),
      ("suffix", 's'), ("zero", 'z')] } 1 fun o ↦ do
    let newline := if o.has 'z' then ['\x00'] else ['\n']
    let isMany := o.has 'a' || o.has 's'
    match o.operands, isMany with
    | [], _ => setStatus 1
    | names, true =>
      print (names.flatMap fun n ↦ withoutEnding ((o.value? 's').getD []) (lastName n) ++ newline)
    | [name], _ => print (lastName name ++ newline)
    | [name, ending], _ => print (withoutEnding ending (lastName name) ++ newline)
    | _, _ => setStatus 1

def dirname : Utility :=
  withOptions { flags := "z", long := [("zero", 'z')] } 1 fun o ↦ do
    if o.operands.isEmpty then setStatus 1
    else print (o.operands.flatMap fun n ↦
      directoryName n ++ if o.has 'z' then ['\x00'] else ['\n'])

def tac : Utility :=
  withOptions { flags := "" } 1 fun o ↦ do
    forInputs o.operands 1 fun _ text ↦
      emit ((linesOf text).reverse.flatMap fun (l, isEnded) ↦ l ++ if isEnded then ['\n'] else [])

def rev : Utility :=
  withOptions { flags := "" } 1 fun o ↦
    forInputs o.operands 1 fun _ text ↦
      emit ((linesOf text).flatMap fun (l, isEnded) ↦
        (Text.Octets.ofText (String.ofList (Text.Octets.text l).toList.reverse))
          ++ if isEnded then ['\n'] else [])

def nl : Utility :=
  withOptions { flags := "p", valued := "bwsvn" } 1 fun o ↦
    forInputs o.operands 1 fun _ text ↦ do
      let width := ((o.value? 'w').bind natural?).getD 6
      let separator := (o.value? 's').getD ['\t']
      let all := o.value? 'b' == some ['a']
      let mut n := 1
      for line in plainLines text do
        if line.isEmpty && !all then
          emit (List.replicate (width + separator.length) ' ' ++ ['\n'])
        else
          emit (column width n ++ separator ++ line ++ ['\n'])
          n := n + 1

def rowsOf : Nat → List (List Octets) → List (List Octets)
  | 0, _ => []
  | n + 1, columns =>
    if columns.all List.isEmpty then []
    else columns.map (·.headD []) :: rowsOf n (columns.map List.tail)

def joinedBy (separators : Octets) : Nat → List Octets → Octets
  | _, [] => []
  | _, [f] => f
  | k, f :: fs => f ++ (separators[k % separators.length]?).toList ++ joinedBy separators (k + 1) fs

def share (count : Nat) : Nat → List Octets → List Octets
  | _, [] | 0, _ => []
  | n + 1, l :: ls => l :: share count n (ls.drop (count - 1))

def paste : Utility :=
  withOptions { flags := "sz", valued := "d", long := [("serial", 's'), ("delimiters", 'd')] } 1
    fun o ↦ do
      let separators := (setOf ((o.value? 'd').getD ['\t'])).getD []
      let operands := if o.operands.isEmpty then [['-']] else o.operands
      let shares := operands.count ['-']
      let input ← if shares > 1 then pure (plainLines ((← readAll? 0).getD [])) else pure []
      let mut columns : List (List Octets) := []
      let mut given := 0
      setStatus 0
      for operand in operands do
        if operand = ['-'] && shares > 1 then
          columns := columns ++ [share shares input.length (input.drop given)]
          given := given + 1
        else
          match ← inputOf? operand with
          | some text => columns := columns ++ [plainLines text]
          | none => setStatus 1
      let rows := if o.has 's' then columns
        else rowsOf (columns.foldl (fun n c ↦ max n c.length) 0) columns
      emit (endedLines (rows.map (joinedBy separators 0)))

def piecesOf (width : Nat) : Nat → Octets → List Octets
  | n + 1, cs =>
    if cs.length ≤ width then [cs] else cs.take width :: piecesOf width n (cs.drop width)
  | 0, cs => [cs]

def fold : Utility :=
  withOptions { flags := "sb", valued := "w", long := [("width", 'w')] } 1 fun o ↦
    forInputs o.operands 1 fun _ text ↦ do
      let width := max 1 (((o.value? 'w').bind natural?).getD 80)
      emit ((linesOf text).flatMap fun (l, isEnded) ↦
        ['\n'].intercalate (piecesOf width l.length l) ++ if isEnded then ['\n'] else [])

def yes : Utility := fun ws ↦ do
  let line := (if ws.isEmpty then ['y'] else [' '].intercalate ws) ++ ['\n']
  let _ ← write (List.replicate (endlessLength / line.length + 1) line).flatten
  throw .endless

end Utility

end Reactor.Shell

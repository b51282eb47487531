import Reactor.Shell.Utility.Text

namespace Reactor.Shell

open Run

namespace Utility

def disk : Run Disk := return (← get).disk

def setDisk (d : Disk) : Run Unit := modify fun s ↦ { s with disk := d }

/-- The place that a path names, with a last link not followed; trailing slashes do not count. -/
def placeOf? (d : Disk) (cs : Octets) : Option Place :=
  (d.resolve (pathOf (dropSlashes cs)) false).toOption

def isDirectory (d : Disk) (cs : Octets) : Bool := d.isDirectory (pathOf cs)

def inside (directory name : Octets) : Octets :=
  if directory.getLast? = some '/' then directory ++ name else directory ++ '/' :: name

def treeAt (d : Disk) (place : Place) : List (Place × DiskNode) :=
  d.nodes.filterMap fun (p, node) ↦
    if place.isPrefixOf p then some (p.drop place.length, node) else none

def putTree (d : Disk) (place : Place) (tree : List (Place × DiskNode)) : Disk :=
  tree.foldl (fun d (steps, node) ↦ d.put (place ++ steps) node) d

def newPlace? (d : Disk) (cs : Octets) : Option Place :=
  let name := lastName cs
  match d.lookup (pathOf (directoryName cs)), d.resolve (pathOf (directoryName cs)) true with
  | .ok .directory, .ok above =>
    let text := Text.Octets.text name
    if name = ['.'] ∨ name = ['.', '.'] ∨ name = ['/'] ∨ Disk.isTooLong text then none
    else some (above ++ [text])
  | _, _ => none

def pairs? (d : Disk) (o : Options) : Option (List (Octets × Octets)) :=
  let toward (directory : Octets) (names : List Octets) :=
    names.map fun n ↦ (n, inside directory (lastName n))
  match o.value? 't', o.operands with
  | some directory, names =>
    if names.isEmpty || !isDirectory d directory then none else some (toward directory names)
  | none, names =>
    match names.dropLast, names.getLast? with
    | [], _ | _, none => none
    | sources, some target =>
      if isDirectory d target && !o.has 'T' then some (toward target sources)
      else
        match sources with
        | [source] => some [(source, target)]
        | _ => none

def copyOne (o : Options) (source target : Octets) : Run Bool := do
  let d ← disk
  let recursive := o.has 'r' || o.has 'R' || o.has 'a'
  let keepsLinks := (recursive || o.has 'P' || o.has 'd') && !o.has 'L'
  match d.resolve (pathOf source) (!keepsLinks) with
  | .error _ => return false
  | .ok from_ =>
    match d.node? from_ with
    | none => return false
    | some .directory =>
      if !recursive then return false
      else
        match d.resolve (pathOf target) true, newPlace? d target with
        | .ok place, _ =>
          if !isDirectory d target || from_.isPrefixOf place then return false
          setDisk (putTree d place ((treeAt d from_).filter (!·.1.isEmpty)))
          return true
        | _, some place =>
          if from_.isPrefixOf place then return false
          setDisk (putTree (d.put place .directory) place (treeAt d from_))
          return true
        | _, none => return false
    | some (.link t) =>
      match newPlace? d target with
      | some place =>
        setDisk (d.put place (.link t))
        return true
      | none => return false
    | some node =>
      let content := match node with
        | .file content _ => content
        | _ => .empty
      let mayRun := match node with
        | .file _ x => x
        | _ => false
      match d.resolve (pathOf target) true with
      | .ok place =>
        if place = from_ then return false
        else if o.has 'n' then return true
        else
          match d.write (pathOf target) content with
          | .ok d =>
            setDisk (if o.has 'p' || o.has 'a' then d.put place (.file content mayRun) else d)
            return true
          | .error _ => return false
      | .error _ =>
        match d.write (pathOf target) content with
        | .ok d =>
          match d.resolve (pathOf target) true with
          | .ok place => setDisk (d.put place (.file content mayRun))
          | .error _ => setDisk d
          return true
        | .error _ => return false

def cp : Utility :=
  withOptions { flags := "rRafpniuvLPdTxl", valued := "tS", long := [("recursive", 'r'),
      ("archive", 'a'), ("force", 'f'), ("no-clobber", 'n'), ("verbose", 'v'),
      ("target-directory", 't'), ("no-target-directory", 'T'), ("update", 'u')] } 1 fun o ↦ do
    match pairs? (← disk) o with
    | none => setStatus 1
    | some pairs =>
      setStatus 0
      for (source, target) in pairs do
        if !(← copyOne o source target) then setStatus 1

def moveOne (o : Options) (source target : Octets) : Run Bool := do
  let d ← disk
  match placeOf? d source, newPlace? d target with
  | some from_, some place =>
    match d.node? from_, d.node? place with
    | none, _ => return false
    | some node, there =>
      let isTree := match node with
        | .directory => true
        | _ => false
      if from_ = place || (isTree && from_.isPrefixOf place) then return false
      else if o.has 'n' && there.isSome then return true
      else
        match there, isTree with
        | some .directory, true =>
          if (treeAt d place).length > 1 then return false
          setDisk (putTree (d.remove from_) place (treeAt d from_))
          return true
        | some .directory, false => return false
        | some _, true => return false
        | _, _ =>
          if !isTree && target.getLast? = some '/' then return false
          setDisk (putTree ((d.remove from_).remove place) place (treeAt d from_))
          return true
  | _, _ => return false

def mv : Utility :=
  withOptions { flags := "finuvT", valued := "tS", long := [("force", 'f'), ("no-clobber", 'n'),
      ("verbose", 'v'), ("target-directory", 't'), ("no-target-directory", 'T')] } 1 fun o ↦ do
    match pairs? (← disk) o with
    | none => setStatus 1
    | some pairs =>
      setStatus 0
      for (source, target) in pairs do
        if !(← moveOne o source target) then setStatus 1

def rm : Utility :=
  withOptions { flags := "rRfdvi", long := [("recursive", 'r'), ("force", 'f'), ("dir", 'd'),
      ("verbose", 'v')] } 1 fun o ↦ do
    setStatus (if o.operands.isEmpty && !o.has 'f' then 1 else 0)
    for name in o.operands do
      let d ← disk
      match placeOf? d name with
      | none => if !o.has 'f' then setStatus 1
      | some place =>
        let isTree := match d.node? place with
          | some .directory => true
          | _ => false
        let last := lastName name
        let isRefused := last = ['.'] || last = ['.', '.'] || place.isEmpty
          || (isTree && !(o.has 'r' || o.has 'R' || (o.has 'd' && (treeAt d place).length ≤ 1)))
          || (!isTree && name.getLast? = some '/')
        if isRefused then setStatus 1 else setDisk (d.remove place)

def rmdir : Utility :=
  withOptions { flags := "pv", long := [("parents", 'p')] } 1 fun o ↦ do
    setStatus (if o.operands.isEmpty then 1 else 0)
    for name in o.operands do
      let d ← disk
      match placeOf? d name with
      | some place =>
        match d.node? place with
        | some .directory =>
          if (treeAt d place).length > 1 then setStatus 1 else setDisk (d.remove place)
        | _ => setStatus 1
      | none => setStatus 1

def makeAll (d : Disk) (cs : Octets) : Option Disk :=
  let made := d.addDirectory (pathOf cs)
  if isDirectory made cs && made.nodes.all fun (p, _) ↦
      p.dropLast.isEmpty || (match made.node? p.dropLast with
        | some .directory => true
        | _ => false) then some made
  else none

def mkdir : Utility :=
  withOptions { flags := "pvZ", valued := "m", long := [("parents", 'p'), ("mode", 'm'),
      ("verbose", 'v')] } 1 fun o ↦ do
    setStatus (if o.operands.isEmpty then 1 else 0)
    for name in o.operands do
      let d ← disk
      if o.has 'p' then
        match makeAll d name with
        | some d => setDisk d
        | none => setStatus 1
      else
        match (d.resolve (pathOf name) false).isOk, newPlace? d name with
        | false, some place => setDisk (d.put place .directory)
        | _, _ => setStatus 1

def touch : Utility :=
  withOptions { flags := "acmfh", valued := "drt", long := [("no-create", 'c'), ("date", 'd'),
      ("reference", 'r')] } 1 fun o ↦ do
    setStatus (if o.operands.isEmpty then 1 else 0)
    for name in o.operands do
      let d ← disk
      if !(d.lookup (pathOf name)).isOk && !o.has 'c' then
        match d.write (pathOf name) .empty with
        | .ok d => setDisk d
        | .error _ => setStatus 1

def ln : Utility :=
  withOptions { flags := "sfnvTrLPi", valued := "tS", long := [("symbolic", 's'), ("force", 'f'),
      ("no-dereference", 'n'), ("verbose", 'v'), ("target-directory", 't'),
      ("no-target-directory", 'T'), ("relative", 'r')] } 1 fun o ↦ do
    let d ← disk
    let isLink (cs : Octets) := d.kind? (pathOf cs) == some .link
    let pairs? : Option (List (Octets × Octets)) := match o.operands, o.value? 't' with
      | [target], none => some [(target, lastName target)]
      | [target, name], none =>
        if isDirectory d name && !(o.has 'T' || (o.has 'n' && isLink name)) then
          some [(target, inside name (lastName target))]
        else some [(target, name)]
      | _, _ => pairs? d o
    match pairs? with
    | none => setStatus 1
    | some pairs =>
      setStatus 0
      for (target, name) in pairs do
        let d ← disk
        match newPlace? d name with
        | none => setStatus 1
        | some place =>
          let node? : Option DiskNode := if o.has 's' then some (.link (Text.Octets.text target))
            else
              match (placeOf? d target).bind d.node? with
              | some (.file content x) => some (.file content x)
              | some (.link t) => some (.link t)
              | _ => none
          match node?, d.node? place with
          | none, _ | _, some .directory => setStatus 1
          | some node, none => setDisk (d.put place node)
          | some node, some _ => if o.has 'f' then setDisk (d.put place node) else setStatus 1

def canonical? (d : Disk) (mayMiss : Bool) (cs : Octets) : Option Octets :=
  let text (p : Place) := Text.Octets.ofText (Disk.pathOf p).text
  match d.resolve (pathOf cs) true with
  | .ok place => some (text place)
  | .error .noEntry =>
    let path := pathOf cs
    let start := if path.isAbsolute then [] else d.working
    if mayMiss then (d.target Disk.linkLimit start (Disk.steps path.text)).toOption.map text
    else none
  | .error _ => none

def readlink : Utility :=
  withOptions { flags := "femnqsvz", long := [("canonicalize", 'f'), ("canonicalize-existing", 'e'),
      ("canonicalize-missing", 'm'), ("no-newline", 'n'), ("zero", 'z')] } 1 fun o ↦ do
    let d ← disk
    let ending (cs : Octets) := if o.has 'n' then cs else cs ++ ['\n']
    setStatus (if o.operands.isEmpty then 1 else 0)
    for name in o.operands do
      let text? := if o.has 'f' || o.has 'm' then canonical? d true name
        else if o.has 'e' then canonical? d false name
        else match (d.resolve (pathOf name) false).toOption.bind d.node? with
          | some (.link t) => some (Text.Octets.ofText t)
          | _ => none
      match text? with
      | some text => emit (ending text)
      | none => setStatus 1

def realpath : Utility :=
  withOptions { flags := "emLPqsz", long := [("canonicalize-existing", 'e'),
      ("canonicalize-missing", 'm'), ("quiet", 'q')] } 1 fun o ↦ do
    let d ← disk
    setStatus (if o.operands.isEmpty then 1 else 0)
    for name in o.operands do
      match canonical? d (!o.has 'e') name with
      | some text => emit (text ++ ['\n'])
      | none => setStatus 1

def namesIn (d : Disk) (cs : Octets) (all almostAll : Bool) : List Octets :=
  let names := ((d.list (pathOf cs)).toOption.getD []).map fun e ↦ Text.Octets.ofText e.name
  let names := if all || almostAll then names else names.filter (·.head? ≠ some '.')
  if all then ['.'] :: ['.', '.'] :: names else names

def ls : Utility :=
  withOptions { flags := "aA1lhFdrtRSUnCxpQbiogksLHmfuvX", valued := "wIT", long := [("all", 'a'),
      ("almost-all", 'A'), ("directory", 'd'), ("reverse", 'r'), ("recursive", 'R'),
      ("classify", 'F')] } 2 fun o ↦ do
    let d ← disk
    let operands := if o.operands.isEmpty then [['.']] else o.operands
    let mark (directory name : Octets) : Octets :=
      let path := if directory.isEmpty then name else inside directory name
      if !(o.has 'F' || o.has 'p') then name
      else
        match (d.resolve (pathOf path) false).toOption.bind d.node? with
        | some .directory => name ++ ['/']
        | some (.link _) => if o.has 'F' then name ++ ['@'] else name
        | some (.file _ true) => if o.has 'F' then name ++ ['*'] else name
        | _ => name
    let ordered (names : List Octets) : List Octets := if o.has 'r' then names.reverse else names
    let (found, missing) := operands.partition fun n ↦ (d.lookup (pathOf n)).isOk
      || (d.kind? (pathOf n)).isSome
    let sorted := found.mergeSort fun a b ↦ (compare (String.ofList a) (String.ofList b)).isLE
    let (directories, files) := sorted.partition fun n ↦ isDirectory d n && !o.has 'd'
    setStatus (if missing.isEmpty then 0 else 2)
    emit (endedLines ((ordered files).map (mark [])))
    let isHeaded := operands.length > 1
    let mut isFirst := files.isEmpty
    for directory in ordered directories do
      let heading := if isHeaded then directory ++ [':', '\n'] else []
      emit ((if isFirst then [] else ['\n']) ++ heading
        ++ endedLines ((ordered (namesIn d directory (o.has 'a' || o.has 'f') (o.has 'A'))).map
          (mark directory)))
      isFirst := false

def mayRun? (before : Bool) (mode : Octets) : Option Bool :=
  if !mode.isEmpty && mode.all fun c ↦ '0' ≤ c && c ≤ '7' then
    some ((mode.reverse.take 3).any fun c ↦ (c.toNat - '0'.toNat) % 2 = 1)
  else
    (Text.cut ',' mode).foldlM (fun may clause ↦
      let rest := clause.dropWhile ("ugoa".toList.contains ·)
      match rest with
      | sign :: letters =>
        if !letters.all ("rwxXstugo".toList.contains ·) then none
        else
          match sign with
          | '+' => some (may || letters.contains 'x')
          | '-' => some (may && !letters.contains 'x')
          | '=' => some (letters.contains 'x' || (letters.contains 'X' && may))
          | _ => none
      | [] => none) before

def chmod : Utility := fun ws ↦ do
  let isMode (w : Octets) : Bool := w.head? == some '-' && (mayRun? false w).isSome
  let isRecursive := ws.any fun w ↦ w = ['-', 'R'] || w = "--recursive".toList
  let ws := ws.filter fun w ↦ !(w.head? == some '-' && !isMode w)
  match ws with
  | mode :: names =>
    if (mayRun? false mode).isNone || names.isEmpty then setStatus 1
    else
      setStatus 0
      for name in names do
        let d ← disk
        match d.resolve (pathOf name) true with
        | .error _ => setStatus 1
        | .ok place =>
          let changed := d.nodes.map fun (p, node) ↦
            match node with
            | .file content x =>
              if p = place || (isRecursive && place.isPrefixOf p) then
                (p, .file content ((mayRun? x mode).getD x))
              else (p, node)
            | _ => (p, node)
          setDisk { d with nodes := changed }
  | [] => setStatus 1

def mktemp : Utility :=
  withOptions { flags := "dqut", valued := "p", long := [("directory", 'd'), ("quiet", 'q'),
      ("dry-run", 'u'), ("tmpdir", 't')] } 1 fun o ↦ do
    let template := o.operands.headD "tmp.XXXXXXXXXX".toList
    let count := (template.reverse.takeWhile (· == 'X')).length
    if count < 3 || o.operands.length > 1 then setStatus 1
    else
      let n ← fresh
      let digits := (toString n).toList
      let stem := template.take (template.length - count)
        ++ (List.replicate (count - digits.length) 'x' ++ digits).take count
      let directory := (← value? "TMPDIR").getD "/tmp".toList
      let name := match o.value? 'p' with
        | some directory => inside directory stem
        | none => if o.operands.isEmpty || o.has 't' then inside directory stem else stem
      let d ← disk
      match newPlace? d name with
      | none => setStatus 1
      | some place =>
        if !o.has 'u' then
          setDisk (d.put place (if o.has 'd' then .directory else .file .empty false))
        print (name ++ ['\n'])

def cmp : Utility :=
  withOptions { flags := "slb", valued := "n", long := [("silent", 's'), ("quiet", 's')] } 2
    fun o ↦ do
      match o.operands with
      | a :: more =>
        let second := more.headD ['-']
        match ← inputOf? a, ← inputOf? second with
        | some x, some y =>
          if x = y then setStatus 0
          else
            let same := ((x.zip y).takeWhile fun (c, d) ↦ c == d).length
            if same < x.length && same < y.length && !o.has 's' then
              emit (a ++ ' ' :: second ++ " differ: char ".toList ++ (toString (same + 1)).toList
                ++ ", line ".toList ++ (toString ((x.take same).count '\n' + 1)).toList ++ ['\n'])
            setStatus 1
        | _, _ => setStatus 2
      | [] => setStatus 2

/-- Tells whether two files are the same, without how they differ. -/
def diff : Utility :=
  withOptions { flags := "qsuabBwitr", long := [("brief", 'q'), ("unified", 'u')] } 2 fun o ↦ do
    match o.operands with
    | [a, b] =>
      match ← inputOf? a, ← inputOf? b with
      | some x, some y =>
        if x ≠ y && o.has 'q' then
          emit ("Files ".toList ++ a ++ " and ".toList ++ b ++ " differ\n".toList)
        setStatus (if x = y then 0 else 1)
      | _, _ => setStatus 2
    | _ => setStatus 2

structure Search where
  roots : List Octets
  lowest : Nat
  deepest : Option Nat
  tests : List (Bool × (Octets → Option DiskNode → Bool))
  deletes : Bool
  zero : Bool

def isKind (kind : Octets) (node : Option DiskNode) : Bool :=
  match kind, node with
  | ['f'], some (.file ..) => true
  | ['d'], some .directory => true
  | ['l'], some (.link _) => true
  | _, _ => false

def search? : Nat → Bool → Search → List Octets → Option Search
  | 0, _, _, _ => none
  | _ + 1, _, s, [] => some s
  | n + 1, isNot, s, w :: ws =>
    let test (f : Octets → Option DiskNode → Bool) (ws : List Octets) : Option Search :=
      search? n false { s with tests := s.tests ++ [(isNot, f)] } ws
    match String.ofList w, ws with
    | "!", ws | "-not", ws => search? n (!isNot) s ws
    | "-a", ws | "-and", ws | "-print", ws => search? n isNot s ws
    | "-print0", ws => search? n isNot { s with zero := true } ws
    | "-delete", ws => search? n isNot { s with deletes := true } ws
    | "-name", v :: ws => test (fun p _ ↦ matchesPattern (patternOf v) (lastName p)) ws
    | "-iname", v :: ws =>
      let p := patternOf (v.map Char.toLower)
      test (fun path _ ↦ matchesPattern p ((lastName path).map Char.toLower)) ws
    | "-path", v :: ws => test (fun p _ ↦ matchesPattern (patternOf v) p) ws
    | "-type", v :: ws => test (fun _ node ↦ isKind v node) ws
    | "-empty", ws => test (fun _ node ↦ match node with
        | some (.file content _) => content.isEmpty
        | _ => false) ws
    | "-maxdepth", v :: ws =>
      (natural? v).bind fun k ↦ search? n isNot { s with deepest := some k } ws
    | "-mindepth", v :: ws => (natural? v).bind fun k ↦ search? n isNot { s with lowest := k } ws
    | _, ws =>
      if w.head? == some '-' || s.tests.length > 0 then none
      else search? n isNot { s with roots := s.roots ++ [w] } ws

/-- The paths below one that a search visits, each directory before what is in it. -/
def visited (d : Disk) (deepest : Option Nat) : Nat → Nat → Octets → List (Octets × Nat)
  | 0, _, _ => []
  | n + 1, depth, path =>
    let isTree := d.kind? (pathOf path) == some .directory
    (path, depth) ::
      if isTree && deepest.all (depth < ·) then
        (namesIn d path false true).flatMap fun name ↦
          visited d deepest n (depth + 1) (inside path name)
      else []

def find : Utility := fun ws ↦ do
  match search? (ws.length + 1) false ⟨[], 0, none, [], false, false⟩ ws with
  | none => setStatus 1
  | some s =>
    setStatus 0
    for root in (if s.roots.isEmpty then [['.']] else s.roots) do
      let d ← disk
      if (d.kind? (pathOf root)).isNone then setStatus 1
      else
        for (path, depth) in visited d s.deepest 64 0 root do
          let node := (d.resolve (pathOf path) false).toOption.bind d.node?
          if s.lowest ≤ depth && s.tests.all fun (isNot, f) ↦ f path node != isNot then
            if s.deletes then
              match placeOf? (← disk) path with
              | some place => setDisk ((← disk).remove place)
              | none => pure ()
            else emit (path ++ if s.zero then ['\x00'] else ['\n'])

end Utility

end Reactor.Shell

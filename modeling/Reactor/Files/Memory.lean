import Reactor.Files

namespace Reactor

inductive MemoryEntry
  | file (content : String)
  | directory
  deriving DecidableEq, Repr

def MemoryEntry.kind : MemoryEntry → EntryKind
  | file _ => .file
  | directory => .directory

/-- Places are told apart by components, and a place keeps the spelling of the path it was first
added under. -/
structure Memory where
  root : Path
  entries : List (Path × MemoryEntry)

namespace Memory

def find (place : Path) (entries : List (Path × MemoryEntry)) : Option MemoryEntry :=
  (entries.find? (·.1.components == place.components)).map Prod.snd

/-- A new entry at a known place takes the old one's. -/
def put (place : Path) (entry : MemoryEntry) :
    List (Path × MemoryEntry) → List (Path × MemoryEntry)
  | [] => [(place, entry)]
  | (p, e) :: rest =>
    if p.components = place.components then (p, entry) :: rest
    else (p, e) :: put place entry rest

def placesUpTo (path : Path) : List Path :=
  let components := path.components
  (List.range components.length).map fun i ↦ Path.ofComponents (components.take (i + 1))

def ensure (path : Path) (entries : List (Path × MemoryEntry)) : List (Path × MemoryEntry) :=
  (placesUpTo path).foldl
    (fun es p ↦ if (find p es).isSome then es else put p .directory es) entries

variable (m : Memory)

def place (path : Path) : Path := m.root.join path

def addFile (path : Path) (content : String) : Memory :=
  let place := m.place path
  let above := match place.parent? with
    | some parent => ensure parent m.entries
    | none => m.entries
  { m with entries := put place (.file content) above }

def addDirectory (path : Path) : Memory :=
  { m with entries := ensure (m.place path) m.entries }

def ofRoot (root : Path) : Memory := addDirectory ⟨root, []⟩ root

def entry? (path : Path) : Option MemoryEntry := find (m.place path) m.entries

def read (path : Path) : Except ReadFault String :=
  match m.entry? path with
  | some (.file content) => .ok content
  | some .directory => .error (.notAFile path)
  | none => .error (.notFound path)

def isChildOf (directory place : Path) : Bool :=
  (place.parent?.map Path.components) == some directory.components

def list (path : Path) : Except ListFault (List DirEntry) :=
  let directory := m.place path
  match find directory m.entries with
  | none => .error (.notFound directory)
  | some (.file _) => .error (.notADirectory directory)
  | some .directory =>
    let children := m.entries.filter (isChildOf directory ·.1)
    .ok <| (children.map fun (p, e) ↦ ⟨p, p.fileName?.getD "", e.kind⟩).mergeSort
      fun a b ↦ (compare a.name b.name).isLE

def view : FileView where
  exists? path := (m.entry? path).isSome
  isDirectory path := m.entry? path == some .directory
  isFile path := (m.entry? path).any fun e ↦ e.kind == .file
  read := m.read
  list := m.list

end Memory

end Reactor

import Reactor.Files
import Reactor.Files.Programs

namespace Reactor

inductive Device
  | nothing
  /-- Takes whatever is written and gives octets without end. -/
  | endless
  /-- Has no room for anything and gives octets without end. -/
  | full
  deriving DecidableEq, Repr

inductive DiskNode
  | file (content : ByteArray) (isExecutable : Bool)
  | directory
  | link (target : String)
  | device (device : Device)
  | program (name : String)

/-- The names from the root down. -/
abbrev Place := List String

structure Disk where
  nodes : List (Place × DiskNode)
  working : Place

namespace Disk

def empty (working : Place) : Disk :=
  ⟨[(["dev"], .directory), (["dev", "null"], .device .nothing), (["dev", "zero"], .device .endless),
    (["dev", "urandom"], .device .endless), (["dev", "full"], .device .full),
    (["tmp"], .directory)], working⟩

variable (d : Disk)

def systemNode? (place : Place) : Option DiskNode :=
  match place with
  | [] => some .directory
  | ["bin"] => some (.link "usr/bin")
  | ["sbin"] => some (.link "usr/sbin")
  | ["usr", "bin", name] => if Programs.isProgram name then some (.program name) else none
  | ["etc", name] =>
    if Programs.settingNames.contains name then some (.file "\n".toUTF8 false) else none
  | _ => if Programs.directories.contains place then some .directory else none

def node? (place : Place) : Option DiskNode :=
  ((d.nodes.find? (·.1 == place)).map Prod.snd).or (systemNode? place)

def put (place : Place) (node : DiskNode) : Disk :=
  { d with nodes := (place, node) :: d.nodes.filter (·.1 != place) }

def linkLimit : Nat := 40

/-- The steps of a path as written; an empty step stays where it is, but only in a directory. -/
def steps (path : String) : List String := (Text.cut '/' path.toList).map String.ofList

def isAbsolute (path : String) : Bool := path.toList.head? == some '/'

def nameLimit : Nat := 255

/-- How many bytes a path may have, and the one that ends it. -/
def pathLimit : Nat := 4096

def isTooLong (name : String) : Bool := name.utf8ByteSize > nameLimit

def pathFault? (path : String) : Option SystemError :=
  if path.isEmpty then some .noEntry
  else if path.toList.contains '\x00' then some .endInName
  else if path.utf8ByteSize ≥ pathLimit then some .nameTooLong
  else none

/-- Goes the steps from a directory on. The last one may lead to anything; if it is a link it is
followed only when `follow` says so. -/
def walk (follow : Bool) (links : Nat) (place : Place) (pending : List String) :
    Except SystemError Place :=
  match pending with
  | [] => .ok place
  | step :: rest =>
    if step = "" ∨ step = "." then walk follow links place rest
    else if step = ".." then walk follow links place.dropLast rest
    else
      match d.node? (place ++ [step]) with
      | none => .error (if isTooLong step then .nameTooLong else .noEntry)
      | some .directory => walk follow links (place ++ [step]) rest
      | some (.file ..) | some (.device _) | some (.program _) =>
        if rest.isEmpty then .ok (place ++ [step]) else .error .notDirectory
      | some (.link target) =>
        if rest.isEmpty && !follow then .ok (place ++ [step])
        else
          match links with
          | 0 => .error .tooManyLinks
          | links + 1 =>
            walk follow links (if isAbsolute target then [] else place) (steps target ++ rest)
termination_by (links, pending.length)

def resolve (path : Path) (follow : Bool) : Except SystemError Place :=
  match pathFault? path.text with
  | some e => .error e
  | none => d.walk follow linkLimit (if path.isAbsolute then [] else d.working) (steps path.text)

def lookup (path : Path) : Except SystemError DiskNode :=
  match d.resolve path true with
  | .error e => .error e
  | .ok place =>
    match d.node? place with
    | some node => .ok node
    | none => .error .noEntry

def kind? (path : Path) : Option EntryKind :=
  ((d.resolve path false).toOption.bind d.node?).map fun
    | .file .. | .device _ | .program _ => .file
    | .directory => .directory
    | .link _ => .link

def pathOf (place : Place) : Path := ⟨"/" ++ "/".intercalate place⟩

def canonical (path : Path) : Except SystemError Path := (d.resolve path true).map pathOf

def isDirectory (path : Path) : Bool :=
  match d.lookup path with
  | .ok .directory => true
  | _ => false

def isFile (path : Path) : Bool :=
  match d.lookup path with
  | .ok (.file ..) | .ok (.program _) => true
  | _ => false

/-- The first bytes of every program, which are no text. -/
def programHead : ByteArray := ⟨#[127, 69, 76, 70, 2, 1, 1, 0, 255]⟩

def bytes (path : Path) : Except SystemError ByteArray :=
  match d.lookup path with
  | .ok (.file content _) => .ok content
  | .ok (.device _) => .ok .empty
  | .ok (.program _) => .ok programHead
  | .ok _ => .error .isDirectory
  | .error e => .error e

def read (path : Path) : Except ReadFault String :=
  match d.bytes path with
  | .error _ => .error (.refused path)
  | .ok content =>
    match String.fromUTF8? content with
    | some text => .ok text
    | none => .error (.invalidText path)

def nodeKind : DiskNode → EntryKind
  | .file .. | .device _ | .program _ => .file
  | .directory => .directory
  | .link _ => .link

def entriesAt (path : Path) (place : Place) : List DirEntry :=
  let children := d.nodes.filterMap fun (p, node) ↦
    if p.dropLast = place then
      p.getLast?.map fun name ↦ (⟨path.join ⟨name⟩, name, nodeKind node⟩ : DirEntry)
    else none
  children.mergeSort fun a b ↦ (compare a.name b.name).isLE

def list (path : Path) : Except ListFault (List DirEntry) :=
  if d.isDirectory path then
    match d.resolve path true with
    | .ok place => .ok (d.entriesAt path place)
    | .error _ => .error (.refused path)
  else .error (.refused path)

def view : FileView where
  exists? path := (d.lookup path).isOk
  isDirectory := d.isDirectory
  isFile := d.isFile
  read := d.read
  list := d.list

def makeDirectories : Place → List String → Disk → Disk × Place
  | place, [], d => (d, place)
  | place, step :: rest, d =>
    match d.walk true linkLimit place [step] with
    | .ok next => makeDirectories next rest d
    | .error _ => makeDirectories (place ++ [step]) rest (d.put (place ++ [step]) .directory)

def add (path : Path) (node : DiskNode) : Disk :=
  let names := (steps path.text).filter fun s ↦ s ≠ "" && s ≠ "."
  let start := if path.isAbsolute then [] else d.working
  let (d, above) := makeDirectories start names.dropLast d
  match names.getLast? with
  | some name => d.put (above ++ [name]) node
  | none => d

def addDirectory (path : Path) : Disk :=
  let names := steps path.text
  (makeDirectories (if path.isAbsolute then [] else d.working) names d).1

/-- The place where writing to a path puts a file; links are followed also to where nothing is, and
a path that ends in a slash or a dot is never a file's. -/
def target : Nat → Place → List String → Except SystemError Place
  | links, start, names =>
    let trimmed := (names.reverse.dropWhile (·.isEmpty)).reverse
    match trimmed.getLast? with
    | none => .error .isDirectory
    | some name =>
      match d.walk true linkLimit start trimmed.dropLast with
      | .error e => .error e
      | .ok above =>
        match d.node? above with
        | some .directory =>
          if trimmed.length < names.length ∨ name = "." ∨ name = ".." then .error .isDirectory
          else match d.node? (above ++ [name]), links with
            | some (.link t), links + 1 =>
              target links (if isAbsolute t then [] else above) (steps t)
            | some (.link _), 0 => .error .tooManyLinks
            | some .directory, _ => .error .isDirectory
            | _, _ =>
              if isTooLong name then .error .nameTooLong else .ok (above ++ [name])
        | _ => .error .notDirectory

def write (path : Path) (content : ByteArray) : Except SystemError Disk :=
  match pathFault? path.text, d.lookup path with
  | some e, _ => .error e
  | none, .ok (.device .full) => if content.isEmpty then .ok d else .error .noSpace
  | none, _ =>
    (d.target linkLimit (if path.isAbsolute then [] else d.working) (steps path.text)).map
      fun place ↦
        match d.node? place with
        | some (.device _) => d
        | some (.file _ isExecutable) => d.put place (.file content isExecutable)
        | _ => d.put place (.file content false)

def remove (place : Place) : Disk :=
  { d with nodes := d.nodes.filter fun (p, _) ↦ !place.isPrefixOf p }

end Disk

end Reactor

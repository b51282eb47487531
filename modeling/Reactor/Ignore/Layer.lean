import Reactor.Ignore.File

namespace Reactor

structure IgnoreLayer where
  ownRules : IgnoreFile
  sharedRules : IgnoreFile
  privateRules : IgnoreFile
  isControlled : Bool
  faults : List String

namespace IgnoreLayer

variable (d : Disk)

def firstLine? (file : Path) (content : ByteArray) : Except String (Option String) :=
  if content.isEmpty then .ok none
  else
    match String.fromUTF8? ⟨((IgnoreFile.lines content.toList).headD []).toArray⟩ with
    | some line => .ok (some line)
    | none => .error s!"{file.text}: {invalidText}"

/-- Where `.git` is a file, it names the place of a linked work tree, whose `commondir` leads to the
history. -/
def linkedHistory? (place : Path) : Except String (Option Path) :=
  let file := place.join ⟨"commondir"⟩
  match d.bytes file with
  | .error .isDirectory => .error s!"{file.text}: {SystemError.isDirectory.message}"
  | .error _ => .ok none
  | .ok content =>
    (firstLine? file content).map fun line? ↦ line?.map fun line ↦
      if line.toList.head? = some '.' then place.join ⟨line⟩ else ⟨line⟩

def history? (control : Path) : Except String (Option Path) :=
  match d.lookup control with
  | .ok (.file content _) =>
    match firstLine? control content with
    | .error e => .error e
    | .ok none => .ok none
    | .ok (some line) =>
      match Text.dropPrefix? "gitdir: ".toList line.toList with
      | some place => linkedHistory? d ⟨String.ofList place⟩
      | none => .ok none
  | _ => .ok (some control)

def privateRules? (directory : Path) : IgnoreFile × List String :=
  match history? d (directory.join ⟨".git"⟩) with
  | .ok (some history) => IgnoreFile.ofDisk d directory (history.join ⟨"info/exclude"⟩)
  | .ok none => (⟨directory, []⟩, [])
  | .error e => (⟨directory, []⟩, [e])

def ofDirectory (directory : Path) : IgnoreLayer :=
  let own := IgnoreFile.ofDisk d directory (directory.join ⟨".ignore"⟩)
  let shared := IgnoreFile.ofDisk d directory (directory.join ⟨".gitignore"⟩)
  let hidden := privateRules? d directory
  { ownRules := own.1
    sharedRules := shared.1
    privateRules := hidden.1
    isControlled := [".git", ".jj"].any fun name ↦ (d.lookup (directory.join ⟨name⟩)).isOk
    faults := own.2 ++ shared.2 ++ hidden.2 }

def above (place : Place) : List IgnoreLayer :=
  (List.range place.length).reverse.map fun n ↦ ofDirectory d (Disk.pathOf (place.take n))

end IgnoreLayer

structure IgnoreCase where
  layers : List (IgnoreLayer × Path)
  userRules : IgnoreFile
  path : Path

namespace IgnoreCase

variable (c : IgnoreCase)

/-- The layers up to the nearest root of version control; none if there is no such root. -/
def controlled : List (IgnoreLayer × Path) :=
  match c.layers.find? (·.1.isControlled) with
  | some root => c.layers.takeWhile (!·.1.isControlled) ++ [root]
  | none => []

/-- What a user's rules say; they count inside version-controlled trees. -/
def userVerdict? : Option Bool :=
  if c.layers.any (·.1.isControlled) then c.userRules.verdict? c.path else none

/-- A nearer layer decides before those above it. Own rules decide before shared ones, these before
private ones, and the user's come last. -/
def isIgnored : Bool :=
  ((c.layers.findSome? fun (l, path) ↦ l.ownRules.verdict? path).or
    ((c.controlled.findSome? fun (l, path) ↦ l.sharedRules.verdict? path).or
      ((c.controlled.findSome? fun (l, path) ↦ l.privateRules.verdict? path).or
        c.userVerdict?))).getD false

end IgnoreCase

end Reactor

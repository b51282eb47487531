import Reactor.Placeholder
import Reactor.Shell.Mark

namespace Reactor.Shell

structure Program where
  name : String
  title : Octets
  arguments : List Octets

namespace Program

def headLength : Nat := 255

def isBlank (c : Char) : Bool := c == ' ' || c == '\t'

def isEnd (c : Char) : Bool := isBlank c || c == '\x00'

/-- The program that the first line of a file names, and all that follows its name there. -/
def interpreter? (content : Octets) : Option (Octets × Option Octets) :=
  let head := (content ++ List.replicate headLength '\x00').take headLength
  match head with
  | '#' :: '!' :: text =>
    let line := text.takeWhile (· != '\n')
    let isCut := line.length == text.length
    if isCut && !(line.dropWhile isBlank).any isEnd then none
    else
      let line := ((line.reverse.dropWhile isBlank).reverse).dropWhile isBlank
      let name := line.takeWhile (!isEnd ·)
      let rest := line.drop name.length
      let argument := if rest.head? = some '\x00' then [] else rest.dropWhile isBlank
      let argument := argument.takeWhile (· != '\x00')
      if line.isEmpty then none
      else some (name, if argument.isEmpty then none else some argument)
  | _ => none

def chainLimit : Nat := 6

def resolve (d : Disk) : Nat → Octets → Octets → List Octets → Except SystemError Program
  | 0, _, _, _ => .error .tooManyLinks
  | n + 1, path, title, arguments =>
    match d.lookup (pathOf path) with
    | .error e => .error e
    | .ok (.program name) => .ok ⟨name, title, arguments⟩
    | .ok (.file content true) =>
      match interpreter? (Text.Octets.ofBytes content.toList) with
      | none => .error .badFormat
      | some (name, argument?) => resolve d n name name (argument?.toList ++ path :: arguments)
    | .ok _ => .error .denied

def ofPath (d : Disk) (path title : Octets) (arguments : List Octets) :
    Except SystemError Program :=
  resolve d chainLimit path title arguments

/-- The directories of a search path; an empty one is the working directory. -/
def directories (searchPath : Octets) : List Octets := Text.cut ':' searchPath

def inDirectory (directory name : Octets) : Octets :=
  if directory.isEmpty then name else directory ++ '/' :: name

/-- Tries a name in one directory after the other. Where it is not there or must not be run the
search goes on, and that it must not is remembered. -/
def search (d : Disk) (name : Octets) (arguments : List Octets) (isDenied : Bool) :
    SystemError → List Octets → Except SystemError Program
  | e, [] => .error (if isDenied then .denied else e)
  | _, directory :: rest =>
    match ofPath d (inDirectory directory name) name arguments with
    | .ok p => .ok p
    | .error .denied => search d name arguments true .denied rest
    | .error .noEntry => search d name arguments isDenied .noEntry rest
    | .error .notDirectory => search d name arguments isDenied .notDirectory rest
    | .error e => .error e

def standardPath : String := "/bin:/usr/bin"

def shellPath : String := "/usr/local/sbin:/usr/local/bin:/usr/sbin:/usr/bin:/sbin:/bin"

/-- What starting a command leads to: a command with a slash is a path, any other a name. -/
def ofCommand (d : Disk) (env : Properties) (command : String) (arguments : List Octets) :
    Except SystemError Program :=
  let name := Text.Octets.ofText command
  if name.contains '\x00' || arguments.any (·.contains '\x00') then .error .endInArgument
  else if name.isEmpty then .error .noEntry
  else if name.contains '/' then ofPath d name name arguments
  else if Disk.isTooLong command then .error .nameTooLong
  else
    search d name arguments false .noEntry
      (directories (Text.Octets.ofText (env["PATH"]?.getD standardPath)))

end Program

end Reactor.Shell

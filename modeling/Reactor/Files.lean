import Reactor.Path

namespace Reactor

inductive EntryKind
  | file
  | directory
  | link
  deriving DecidableEq, Repr

structure DirEntry where
  path : Path
  name : String
  kind : EntryKind
  deriving DecidableEq, Repr

def DirEntry.isDirectory (e : DirEntry) : Bool := e.kind == .directory

inductive SystemError
  | noEntry
  | badFormat
  | denied
  | notDirectory
  | isDirectory
  | noSpace
  | nameTooLong
  | tooManyLinks
  /-- A path that holds the character that ends texts. -/
  | endInName
  | endInArgument
  deriving DecidableEq, Repr

def SystemError.message : SystemError → String
  | noEntry => "No such file or directory (os error 2)"
  | badFormat => "Exec format error (os error 8)"
  | denied => "Permission denied (os error 13)"
  | notDirectory => "Not a directory (os error 20)"
  | isDirectory => "Is a directory (os error 21)"
  | noSpace => "No space left on device (os error 28)"
  | nameTooLong => "File name too long (os error 36)"
  | tooManyLinks => "Too many levels of symbolic links (os error 40)"
  | endInName => "file name contained an unexpected NUL byte"
  | endInArgument => "nul byte found in provided data"

def invalidText : String := "stream did not contain valid UTF-8"

inductive ReadFault
  | notFound (path : Path)
  | notAFile (path : Path)
  | refused (path : Path)
  | invalidText (path : Path)
  deriving DecidableEq, Repr

def ReadFault.message : ReadFault → String
  | notFound p => s!"File not found: {p.quoted}"
  | notAFile p => s!"Not a file: {p.quoted}"
  | refused p | invalidText p => s!"Failed to read file {p.quoted}"

inductive ListFault
  | notFound (path : Path)
  | notADirectory (path : Path)
  | refused (path : Path)
  deriving DecidableEq, Repr

def ListFault.message : ListFault → String
  | notFound p => s!"Directory not found: {p.quoted}"
  | notADirectory p => s!"Not a directory: {p.quoted}"
  | refused p => s!"Failed to read directory {p.quoted}"

structure FileView where
  exists? : Path → Bool
  isDirectory : Path → Bool
  isFile : Path → Bool
  read : Path → Except ReadFault String
  list : Path → Except ListFault (List DirEntry)

end Reactor

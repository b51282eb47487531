import Reactor.Files.Image
import Reactor.Session

namespace Reactor

def environmentNames : List String :=
  ["HOME", "PATH", "POMDETECT_RENDER_EFFECTIVE", "POMDETECT_MAVEN_COMMAND",
    "POMDETECT_RENDER_TIMEOUT", "POMDETECT_LOCAL_REPOSITORY", "POMDETECT_LOG_LEVEL",
    "POMDETECT_LOG_JSON", "POMDETECT_MAX_IMPORT_DEPTH"]

def readEnvironment : IO Environment :=
  environmentNames.foldlM (fun env name ↦ do
    match ← IO.getEnv name with
    | some value => return env.insert name value
    | none => return env) ∅

partial def readLines (input : IO.FS.Stream) (lines : Array String) : IO (List String) := do
  let line ← input.getLine
  if line.isEmpty then return lines.toList
  else readLines input (lines.push (line.dropEndWhile (· == '\n')).toString)

def FieldValue.written : FieldValue → String
  | text s => s
  | number n => toString n

def Event.line (e : Event) : String :=
  e.fields.foldl (fun line (key, value) ↦ line ++ " " ++ key ++ "=" ++ value.written)
    (e.level.text ++ " " ++ e.message)

end Reactor

open Reactor in
/-- The disk is an image on standard input, so that a run depends on nothing but its arguments, the
environment and the image. -/
def main (arguments : List String) : IO UInt32 := do
  let lines ← readLines (← IO.getStdin) #[]
  match Disk.ofLines? ⟨"/"⟩ lines with
  | none =>
    IO.eprintln "the image makes no sense"
    return 2
  | some disk =>
    let outcome := Session.run disk arguments (← readEnvironment)
    for note in outcome.notes do IO.eprintln note
    for event in outcome.events do IO.eprintln event.line
    IO.print outcome.output
    return outcome.exitCode.toUInt32

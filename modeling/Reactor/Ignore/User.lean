import Reactor.Ignore.File
import Reactor.Placeholder

namespace Reactor

namespace UserRules

variable (d : Disk) (env : Properties)

def home? : Option Path := env["HOME"]?.map Path.mk

def settings? : Option Path :=
  ((env["XDG_CONFIG_HOME"]?.filter (!·.isEmpty)).map Path.mk).or
    ((home? env).map (·.join ⟨".config"⟩))

def isSpace (c : Char) : Bool := c == ' ' || ('\t' ≤ c && c ≤ '\x0d')

def endsLine (cs : List Char) : Bool :=
  match cs.dropWhile fun c ↦ isSpace c && c != '\n' with
  | [] => true
  | c :: _ => c == '\n'

def endsValue (cs : List Char) : Bool :=
  endsLine cs ||
    match cs.dropWhile isSpace with
    | '"' :: rest => endsLine rest
    | _ => false

def valueFrom? : List Char → Option (List Char)
  | [] => none
  | c :: cs =>
    if isSpace c then none
    else if endsValue cs then some [c]
    else (valueFrom? cs).map (c :: ·)

def value? (cs : List Char) : Option (List Char) :=
  match cs.dropWhile isSpace with
  | '=' :: rest =>
    match rest.dropWhile isSpace with
    | '"' :: quoted => (valueFrom? (quoted.dropWhile isSpace)).or (valueFrom? ('"' :: quoted))
    | cs => valueFrom? cs
  | _ => none

def entry? (cs : List Char) : Option (List Char) :=
  let cs := cs.dropWhile isSpace
  let name := "excludesfile".toList
  if (cs.take name.length).map Char.toLower = name then value? (cs.drop name.length) else none

def entryIn? (isStart : Bool) : List Char → Option (List Char)
  | [] => none
  | c :: cs => ((if isStart then entry? (c :: cs) else none)).or (entryIn? (c == '\n') cs)

def named? (file : Path) : Option Path :=
  match d.bytes file with
  | .error _ => none
  | .ok content =>
    ((String.fromUTF8? content).bind fun text ↦ entryIn? true text.toList).map fun cs ↦
      match home? env with
      | some home => ⟨String.ofList (cs.flatMap fun c ↦ if c = '~' then home.chars else [c])⟩
      | none => ⟨String.ofList cs⟩

def file? : Option Path :=
  (((home? env).bind fun home ↦ named? d env (home.join ⟨".gitconfig"⟩)).or
    ((settings? env).bind fun s ↦ named? d env (s.join ⟨"git/config"⟩))).or
    ((settings? env).map (·.join ⟨"git/ignore"⟩))

def ofDisk : IgnoreFile :=
  let root := Disk.pathOf d.working
  match file? d env with
  | some file => if d.isFile file then (IgnoreFile.ofDisk d root file).1 else ⟨root, []⟩
  | none => ⟨root, []⟩

end UserRules

end Reactor

import Reactor.Text.Quoted
import Reactor.Tree

namespace Reactor.Tree.Json

def escapes : List (Char × List Char) :=
  [('"', ['\\', '"']), ('\\', ['\\', '\\']), ('\x08', ['\\', 'b']), ('\x0c', ['\\', 'f']),
    ('\n', ['\\', 'n']), ('\r', ['\\', 'r']), ('\t', ['\\', 't'])]

def encodeChar (c : Char) : List Char :=
  match escapes.lookup c with
  | some cs => cs
  | none =>
    if c.toNat < 0x20 then
      ['\\', 'u', '0', '0', Nat.digitChar (c.toNat / 16), Nat.digitChar (c.toNat % 16)]
    else [c]

def encode (s : String) : String :=
  String.ofList ('"' :: s.toList.flatMap encodeChar ++ ['"'])

def enclosed (opening closing : String) (column : Nat) (parts : List String) : String :=
  if parts.isEmpty then opening ++ closing
  else
    opening ++ "\n" ++ ",\n".intercalate (parts.map (pad (column + 2) ++ ·))
      ++ "\n" ++ pad column ++ closing

mutual

def write (column : Nat) : Tree → String
  | .null => "null"
  | .bool b => if b then "true" else "false"
  | .text s => encode s
  | .list items => enclosed "[" "]" column (writeItems (column + 2) items)
  | .record fields => enclosed "\x7b" "\x7d" column (writeFields (column + 2) fields)
  | .tagged tag value =>
    enclosed "\x7b" "\x7d" column [encode tag ++ ": " ++ write (column + 2) value]

def writeItems (column : Nat) : List Tree → List String
  | [] => []
  | item :: rest => write column item :: writeItems column rest

def writeFields (column : Nat) : List (String × Tree) → List String
  | [] => []
  | (key, value) :: rest =>
    (encode key ++ ": " ++ write column value) :: writeFields column rest

end

end Reactor.Tree.Json

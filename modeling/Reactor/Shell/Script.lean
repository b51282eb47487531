import Reactor.Text.Octets

namespace Reactor.Shell

export Text (Octets)

mutual

/-- A part of a word. Unquoted parts may be split and may hold pattern characters. -/
inductive Piece
  /-- Empty quoted text still makes a field. -/
  | text (s : Octets) (isQuoted : Bool)
  | home (user : Octets)
  | parameter (name : String) (use : Use) (isQuoted : Bool)
  | output (script : Command) (isQuoted : Bool)
  | arithmetic (expression : List Piece) (isQuoted : Bool)

/-- What becomes of the value of a parameter. With `checksEmpty` an empty value counts as unset. -/
inductive Use
  | plain
  | length
  | orElse (checksEmpty : Bool) (word : List Piece)
  | assign (checksEmpty : Bool) (word : List Piece)
  | ifSet (checksEmpty : Bool) (word : List Piece)
  | demand (checksEmpty : Bool) (word : List Piece)
  | trim (atEnd longest : Bool) (pattern : List Piece)
  /-- A use that makes no sense, which is told only when the value is asked for. -/
  | senseless

inductive Command
  | simple (assignments : List (String × List Piece)) (words : List (List Piece))
    (redirections : List Redirection)
  | sequence (commands : List Command)
  | both (first second : Command)
  | either (first second : Command)
  | negated (c : Command)
  | pipe (first second : Command)
  | choose (test yes no : Command)
  | loop (runsWhile : Bool) (test body : Command)
  | each (name : String) (items : List (List Piece)) (body : Command)
  | select (word : List Piece) (arms : List (List (List Piece) × Command))
  | isolated (c : Command) (redirections : List Redirection)
  | background (c : Command)
  | define (name : String) (body : Command)
  | redirected (c : Command) (redirections : List Redirection)

inductive Redirection
  | input (descriptor : Nat) (file : List Piece)
  | here (descriptor : Nat) (document : Nat)
  | output (descriptor : Nat) (file : List Piece) (appends : Bool)
  | both (descriptor : Nat) (file : List Piece)
  | same (descriptor : Nat) (target : List Piece)

end

abbrev Word := List Piece

def isNameStart (c : Char) : Bool := c.isAlpha || c == '_'

def isNameChar (c : Char) : Bool := c.isAlphanum || c == '_'

def isName (cs : Octets) : Bool :=
  match cs with
  | [] => false
  | c :: cs => isNameStart c && cs.all isNameChar

end Reactor.Shell

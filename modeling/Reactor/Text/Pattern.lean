namespace Reactor.Text

/-- The bytes in one of some ranges, or with `isComplement` those in none. -/
structure ByteSet where
  ranges : List (UInt8 × UInt8)
  isComplement : Bool
  deriving DecidableEq, Repr

namespace ByteSet

def single (b : UInt8) : ByteSet := ⟨[(b, b)], false⟩

def all : ByteSet := ⟨[], true⟩

def except (b : UInt8) : ByteSet := ⟨[(b, b)], true⟩

def contains (s : ByteSet) (b : UInt8) : Bool :=
  s.ranges.any (fun r ↦ r.1 ≤ b && b ≤ r.2) != s.isComplement

end ByteSet

inductive Pattern
  | never
  | empty
  | byte (s : ByteSet)
  | join (p q : Pattern)
  | either (p q : Pattern)
  | many (p : Pattern)
  deriving DecidableEq, Repr

namespace Pattern

inductive Accepts : Pattern → List UInt8 → Prop
  | empty : Accepts .empty []
  | byte {s : ByteSet} {b : UInt8} : s.contains b → Accepts (.byte s) [b]
  | join {p q : Pattern} {u v : List UInt8} :
      Accepts p u → Accepts q v → Accepts (.join p q) (u ++ v)
  | left {p q : Pattern} {u : List UInt8} : Accepts p u → Accepts (.either p q) u
  | right {p q : Pattern} {u : List UInt8} : Accepts q u → Accepts (.either p q) u
  | none {p : Pattern} : Accepts (.many p) []
  | more {p : Pattern} {u v : List UInt8} :
      Accepts p u → Accepts (.many p) v → Accepts (.many p) (u ++ v)

def acceptsEmpty : Pattern → Bool
  | never | byte _ => false
  | empty | many _ => true
  | join p q => p.acceptsEmpty && q.acceptsEmpty
  | either p q => p.acceptsEmpty || q.acceptsEmpty

def andThen : Pattern → Pattern → Pattern
  | never, _ | _, never => never
  | empty, q => q
  | p, empty => p
  | p, q => join p q

def orElse (p q : Pattern) : Pattern :=
  if p = .never then q else if q = .never ∨ p = q then p else either p q

/-- The patterns of what may follow a byte: the rest matches if it matches one of them. -/
def after (b : UInt8) : Pattern → List Pattern
  | never | empty => []
  | byte s => if s.contains b then [empty] else []
  | join p q =>
    (p.after b).map (·.andThen q) ++ (if p.acceptsEmpty then q.after b else [])
  | either p q => p.after b ++ q.after b
  | many p => (p.after b).map (·.andThen (many p))

/-- Reads a text with all patterns that it may still match, each kept once. There are never more of
them than the pattern has parts. -/
def accepts (p : Pattern) (text : List UInt8) : Bool :=
  (text.foldl (fun ps b ↦ (ps.flatMap (·.after b)).eraseDups) [p]).any acceptsEmpty

def all : List Pattern → Pattern
  | [] => empty
  | p :: ps => p.andThen (all ps)

def oneOf : List Pattern → Pattern
  | [] => never
  | p :: ps => p.orElse (oneOf ps)

def literal (text : String) : Pattern :=
  all (text.toUTF8.toList.map fun b ↦ byte (.single b))

def anything : Pattern := many (byte .all)

end Pattern

end Reactor.Text

namespace Reactor.Text

abbrev Octets := List Char

namespace Octets

def ofBytes (bytes : List UInt8) : Octets := bytes.map fun b ↦ Char.ofNat b.toNat

def bytes (cs : Octets) : List UInt8 := cs.map fun c ↦ c.toNat.toUInt8

def ofText (s : String) : Octets := ofBytes s.toUTF8.toList

/-- The text that the bytes encode; where they encode none, each stands for a character. -/
def text (cs : Octets) : String := (String.fromUTF8? ⟨(bytes cs).toArray⟩).getD (String.ofList cs)

end Octets

end Reactor.Text

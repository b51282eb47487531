import Reactor.Ascending
import Reactor.Placeholder
import Reactor.Text.Blank

namespace Reactor

abbrev Bindings := Properties

namespace Bindings

def channel? (space key : String) : Option String :=
  ((Text.dropPrefix? (space ++ ".bindings.").toList key.toList).bind
    (Text.dropSuffix? ".destination".toList)).bind fun cs ↦
      if cs.isEmpty then none else some (String.ofList cs)

def ofOverlay (overlay : Properties) (space : String) : Bindings :=
  overlay.foldl
    (fun m key value ↦ match channel? space key with
      | some channel => m.insert channel value
      | none => m)
    ∅

variable (b : Bindings)

def destinations : List String := Ascending.ofList compare (b.toList.map Prod.snd)

def takesInput (channel : String) : Bool := Text.occursIn "-in-".toList channel.toList

def input? : Option String := (b.toList.map Prod.fst).find? takesInput

end Bindings

end Reactor

namespace Reactor.Ascending

variable {α : Type} (order : α → α → Ordering)

def insert (x : α) : List α → List α
  | [] => [x]
  | y :: ys =>
    match order x y with
    | .lt => x :: y :: ys
    | .eq => y :: ys
    | .gt => y :: insert x ys

def ofList (xs : List α) : List α := xs.foldl (fun set x ↦ insert order x set) []

end Reactor.Ascending

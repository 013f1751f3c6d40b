/-!
# What is due next

Things that are under way wait in a list, in the order in which they set out; timers run beside
them. What is due first comes first; of several at the same time, what set out first, and timers
last.
-/

namespace JobWatch.Simulation

/-- Something on its way, and when it arrives. -/
structure Arrival (ε : Type) where
  due : Nat
  event : ε

variable {ε : Type}

/-- The arrival that is due first, and the others. -/
def firstArrival? : List (Arrival ε) → Option (Arrival ε × List (Arrival ε))
  | [] => none
  | a :: rest =>
    match firstArrival? rest with
    | some (b, others) => if b.due < a.due then some (b, a :: others) else some (a, rest)
    | none => some (a, [])

def firstTimer? (ts : List (Nat × ε)) : Option (Nat × ε) :=
  ts.foldl (fun best t => match best with
    | some b => if t.1 < b.1 then some t else some b
    | none => some t) none

/-- What comes next, if it is due by the given time: when, what, and what is still under way. -/
def next? (arrivals : List (Arrival ε)) (timers : List (Nat × ε)) (limit : Nat) :
    Option (Nat × ε × List (Arrival ε)) :=
  let timer := (firstTimer? timers).filter (·.1 ≤ limit)
  let arrival := (firstArrival? arrivals).filter (·.1.due ≤ limit)
  match arrival, timer with
  | some (a, rest), some (due, e) =>
    if a.due ≤ due then some (a.due, a.event, rest) else some (due, e, arrivals)
  | some (a, rest), none => some (a.due, a.event, rest)
  | none, some (due, e) => some (due, e, arrivals)
  | none, none => none

end JobWatch.Simulation

import MapStyling.Scalar

/-!
# Stops

A list of stops pairs inputs with outputs. `Stops.ordered` puts them in ascending order of their
inputs, and so ordered they are read in two ways: `Stops.step?` takes the output of the greatest stop
that is not above the input, and `Stops.interpolate?` moves between the outputs of the two stops
around the input. Both give an output for every list that has a stop.
-/

namespace MapStyling.Stops

variable {α β κ : Type}

section Order

variable [LE κ] [DecidableLE κ] (rank : α → κ)

/-- Puts a stop behind the stops whose input does not rank above its own. -/
def insert (stop : α × β) : List (α × β) → List (α × β)
  | [] => [stop]
  | s :: stops =>
    if rank s.1 ≤ rank stop.1 then s :: insert stop stops else stop :: s :: stops

/-- Stops in ascending order of the ranks of their inputs; of equal ranks in the order they had. -/
def ordered (stops : List (α × β)) : List (α × β) :=
  stops.foldl (fun sorted stop => insert rank stop sorted) []

end Order

variable [Scalar α]

/-- The output of the last stop in a row that is not above the input, or `output` if the row starts
above it. -/
def stepFrom (x : α) (output : β) : List (α × β) → β
  | [] => output
  | (stop, next) :: stops => if Scalar.le stop x then stepFrom x next stops else output

/-- The output of the greatest stop that is not above the input, of the first stop if there is none
or the input is no number. -/
def step? (x : α) : List (α × β) → Option β
  | [] => none
  | (stop, output) :: stops => some (stepFrom x output ((stop, output) :: stops))

/-- How far an input is on the way from one stop to the next, from zero to one. With the base one the
way is even, with a greater base it is slower at the start. -/
def factor (base x lower upper : α) : α :=
  let range := upper - lower
  let progress := x - lower
  if Scalar.eq range (Scalar.ofNat 0) then Scalar.ofNat 0
  else if Scalar.eq base (Scalar.ofNat 1) then progress / range
  else (Scalar.pow base progress - Scalar.ofNat 1) / (Scalar.pow base range - Scalar.ofNat 1)

/-- The number that lies a given part of the way from one number to another. -/
def mix (t lower upper : α) : α :=
  lower + (upper - lower) * t

/-- How many stops at the front are not above the input. -/
def countBelow (x : α) (stops : List (α × β)) : Nat :=
  (stops.takeWhile fun stop => Scalar.le stop.1 x).length

/-- The stops right below and right above the input, where there are both. -/
def around? (x : α) (stops : List (α × β)) : Option ((α × β) × (α × β)) :=
  match countBelow x stops with
  | 0 => none
  | n + 1 => do
    let lower ← stops[n]?
    let upper ← stops[n + 1]?
    some (lower, upper)

/-- Moves between the outputs of the two stops around the input as `blend` says; the first output
below all stops and for an input that is no number, the last above all. -/
def interpolate? (blend : α → β → β → β) (base x : α) (stops : List (α × β)) : Option β := do
  let first ← stops.head?
  let last ← stops.getLast?
  if Scalar.isNaN x || Scalar.le x first.1 then some first.2
  else if Scalar.le last.1 x then some last.2
  else
    let (lower, upper) ← around? x stops
    some (blend (factor base x lower.1 upper.1) lower.2 upper.2)

end MapStyling.Stops

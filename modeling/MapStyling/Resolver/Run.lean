import MapStyling.Resolver

/-!
# Runs of requests

A resolver serves one request after another, each from the state that the one before left behind.
`Resolver.run` is the state after some requests, and `Resolver.LastComputed` names the request whose
instructions that state still holds.
-/

namespace MapStyling

/-- A request to a resolver. Widths are measured anew for each, so the measurer goes with it. -/
inductive Request where
  /-- Resolves a feature at a zoom level. -/
  | resolve (measure : Measurer) (feature : Feature) (zoom : Float)
  /-- Forgets the last request. -/
  | invalidate

namespace Request

/-- Whether a request asks for instructions. -/
def isResolve : Request → Bool
  | .resolve .. => true
  | .invalidate => false

/-- Whether a request measures widths as a measurer does, if it measures any. -/
def MeasuredBy (measure : Measurer) : Request → Prop
  | .resolve m _ _ => m = measure
  | .invalidate => True

end Request

namespace Resolver

/-- Whether a state answers a request from its pool. -/
def isHit (resolver : Resolver) (state : State) (feature : Feature) (zoom : Float) : Bool :=
  state.last.agrees zoom resolver.sheet.relevant feature.view

/-- The state after a request. -/
def serve (resolver : Resolver) (state : State) : Request → State
  | .resolve measure feature zoom => resolver.resolveAt measure feature zoom state
  | .invalidate => state.invalidate

/-- The state after some requests. -/
def run (resolver : Resolver) (requests : List Request) : State :=
  requests.foldl resolver.serve .start

/-- The instructions that some requests are answered with, from a state on. -/
def answersFrom (resolver : Resolver) (state : State) : List Request → List (List Instruction)
  | [] => []
  | .resolve measure feature zoom :: requests =>
    let next := resolver.resolveAt measure feature zoom state
    next.instructions :: answersFrom resolver next requests
  | .invalidate :: requests => answersFrom resolver state.invalidate requests

/-- The instructions that the requests of a run are answered with. -/
def answers (resolver : Resolver) (requests : List Request) : List (List Instruction) :=
  resolver.answersFrom .start requests

/-- Whether a request is the latest computation of a run that is not forgotten: it was computed, and
behind it nothing was forgotten and every request was answered from the pool. -/
def LastComputed (resolver : Resolver) (requests : List Request) (measure : Measurer)
    (feature : Feature) (zoom : Float) : Prop :=
  ∃ before after, requests = before ++ .resolve measure feature zoom :: after ∧
    resolver.isHit (resolver.run before) feature zoom = false ∧
    .invalidate ∉ after ∧
    ∀ during m f z rest, after = during ++ .resolve m f z :: rest →
      resolver.isHit (resolver.run (before ++ .resolve measure feature zoom :: during)) f z = true

end Resolver

end MapStyling

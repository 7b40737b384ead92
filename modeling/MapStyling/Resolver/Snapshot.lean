import MapStyling.Value.Compare
import MapStyling.Feature

/-!
# The last request

A snapshot holds the zoom level and the attributes that the present instructions were computed for.
A request that agrees with it is answered without computing anything; any other replaces it.
-/

namespace MapStyling

/-- The zoom level and the attributes of a request. -/
structure Snapshot where
  zoom : Option Float
  /-- The values of the attributes that matter, in the order of their names. -/
  values : List (Option Value)
  /-- How many of these attributes the feature has. -/
  used : Nat

namespace Snapshot

/-- No request. -/
def empty : Snapshot := ⟨none, [], 0⟩

/-- The values of the attributes that matter. -/
def valuesOf (relevant : List String) (attributes : Attributes) : List (Option Value) :=
  relevant.map attributes

/-- How many of some attributes there are. -/
def countPresent (values : List (Option Value)) : Nat :=
  values.countP Option.isSome

/-- The snapshot of a request. -/
def ofRequest (zoom : Float) (relevant : List String) (attributes : Attributes) : Snapshot :=
  let values := valuesOf relevant attributes
  ⟨some zoom, values, countPresent values⟩

/-- How many of some attributes there are, if they agree with those of a snapshot one by one; none
from the first on that does not. -/
def countMatching? : List (Option Value) → List (Option Value) → Option Nat
  | v :: vs, w :: ws =>
    if Value.sameAttribute v w then
      (countMatching? vs ws).map fun n => if v.isSome then n + 1 else n
    else none
  | _, _ => some 0

/-- Whether a request agrees with a snapshot: in the zoom level, and in every attribute that
matters. -/
def agrees (snapshot : Snapshot) (zoom : Float) (relevant : List String)
    (attributes : Attributes) : Bool :=
  let values := valuesOf relevant attributes
  (snapshot.zoom.any fun stored => stored == zoom) &&
    values.length == snapshot.values.length &&
    countMatching? values snapshot.values == some snapshot.used

/-- Tells whether a request agrees with a snapshot, and gives the snapshot after it. -/
def check (snapshot : Snapshot) (zoom : Float) (relevant : List String) (attributes : Attributes) :
    Bool × Snapshot :=
  if snapshot.agrees zoom relevant attributes then (true, snapshot)
  else (false, ofRequest zoom relevant attributes)

end Snapshot

end MapStyling

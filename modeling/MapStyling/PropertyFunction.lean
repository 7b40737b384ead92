import MapStyling.Stops
import MapStyling.Value.Compare
import MapStyling.Feature

/-!
# Property functions

A declaration of a style is compiled to a function of the zoom level and of a feature's attributes
(`PropertyFunction.compile`). A literal stays a constant. An object with stops is a function of the
zoom, or with a `property` of that attribute.
-/

namespace MapStyling

/-- How a property moves between stops. -/
inductive StopKind where
  /-- Evenly or exponentially from one stop to the next. -/
  | interpolated
  /-- In steps. -/
  | piecewise
deriving DecidableEq, Repr

/-- Stops with numeric inputs. -/
abbrev NumericStops := List (Float × Value)

/-- How a function of an attribute maps the attribute to an output. -/
inductive AttributeMode where
  /-- Interpolates between stops. -/
  | exponential (base : Float) (stops : NumericStops)
  /-- Takes the stop that is not above the attribute. -/
  | interval (stops : NumericStops)
  /-- Takes the first stop that equals the attribute. -/
  | categorical (stops : List (Value × Value))
  /-- Takes the attribute itself. -/
  | identity

/-- A function of the zoom level and of a feature's attributes. -/
inductive PropertyFunction where
  /-- The same value everywhere. -/
  | constant (value : Value)
  /-- A function of the zoom level. -/
  | zoom (kind : StopKind) (base : Float) (stops : NumericStops)
  /-- A function of an attribute, with the value for features that have no output otherwise. -/
  | attribute (name : String) (mode : AttributeMode) (default : Value)

/-- A rank of a number in the order of all doubles, in which negative zero comes before zero. -/
def totalRank (x : Float) : Int :=
  let bits := x.toBits.toNat
  if bits < Decimal.signBit then bits else (Decimal.signBit : Int) - 1 - bits

namespace NumericStops

/-- A declared stop: an array of an input and an output, of which the input is a number. -/
def stop? : Json → Option (Float × Value)
  | .array [input, output] => input.float?.map (·, Value.ofJson output)
  | _ => none

/-- The declared stops in ascending order of their inputs; of equal inputs in the order of their
declaration. What is no stop is left out. -/
def ofJson (declared : List Json) : NumericStops :=
  Stops.ordered totalRank (declared.filterMap stop?)

end NumericStops

/-- A declared stop of a function by category: an array of an input and an output. -/
def categoryStop? : Json → Option (Value × Value)
  | .array [input, output] => some (Value.ofJson input, Value.ofJson output)
  | _ => none

/-- The numbers of a list of values, if all of them are numbers. -/
def Value.numbers? : List Value → Option (List Float)
  | [] => some []
  | .number x :: vs => (Value.numbers? vs).map (x :: ·)
  | _ :: _ => none

/-- Moves a part of the way from one value to another: numbers as numbers, arrays of the same number
of numbers item by item. Other values do not mix, and the lower one stays. -/
def Value.blend (t : Float) (lower upper : Value) : Value :=
  match lower, upper with
  | .number a, .number b => .number (Stops.mix t a b)
  | .array as, .array bs =>
    match Value.numbers? as, Value.numbers? bs with
    | some xs, some ys =>
      if xs.length = ys.length then
        .array (List.zipWith (fun a b => .number (Stops.mix t a b)) xs ys)
      else lower
    | _, _ => lower
  | _, _ => lower

namespace PropertyFunction

/-- The mode of a function of an attribute with the given type. -/
def mode (type : Option String) (kind : StopKind) (base : Float) (stops : List Json) :
    AttributeMode :=
  match type, kind with
  | some "identity", _ => .identity
  | some "categorical", _ => .categorical (stops.filterMap categoryStop?)
  | some "interval", _ | none, .piecewise => .interval (NumericStops.ofJson stops)
  | _, _ => .exponential base (NumericStops.ofJson stops)

/-- Compiles an object. -/
def compileObject (members : Keyed Json) (kind : StopKind) (fallback : Option Value) :
    PropertyFunction :=
  let base := ((members.get? "base").bind Json.float?).getD 1
  let default := (((members.get? "default").map Value.ofJson).or fallback).getD .null
  let declared := ((members.get? "stops").bind Json.array?).getD []
  match (members.get? "property").bind Json.string? with
  | some name =>
    .attribute name (mode ((members.get? "type").bind Json.string?) kind base declared) default
  | none =>
    match NumericStops.ofJson declared with
    | [] => .constant default
    | stops => .zoom kind base stops

/-- Compiles a declaration. Its own `default` comes before the fallback, and null where there is
neither. -/
def compile (declaration : Json) (kind : StopKind) (fallback : Option Value) : PropertyFunction :=
  match declaration with
  | .object members => compileObject members kind fallback
  | literal => .constant (Value.ofJson literal)

/-- The output of numeric stops. -/
def ofStops (kind : StopKind) (base : Float) (stops : NumericStops) (x : Float) : Option Value :=
  match kind with
  | .interpolated => Stops.interpolate? Value.blend base x stops
  | .piecewise => Stops.step? x stops

/-- The output of a function of an attribute; none where the default takes its place. -/
def ofAttribute (mode : AttributeMode) (input : Value) : Option Value :=
  match mode with
  | .identity => some input
  | .categorical stops => (stops.find? fun stop => stop.1.looseEq input).map (·.2)
  | .exponential base stops => input.toNumber?.bind (ofStops .interpolated base stops)
  | .interval stops => input.toNumber?.bind (ofStops .piecewise 1 stops)

/-- The value at a zoom level and for a feature's attributes. -/
def evaluate (function : PropertyFunction) (zoom : Float) (attributes : Attributes) : Value :=
  match function with
  | .constant value => value
  | .zoom kind base stops => (ofStops kind base stops zoom).getD .null
  | .attribute name mode default => ((attributes name).bind (ofAttribute mode)).getD default

/-- The number at a zoom level and for a feature's attributes, if the value is one. -/
def evaluateNumber? (function : PropertyFunction) (zoom : Float) (attributes : Attributes) :
    Option Float :=
  (function.evaluate zoom attributes).number?

/-- The attribute that a function reads. -/
def attribute? : PropertyFunction → Option String
  | .attribute name _ _ => some name
  | _ => none

/-- Applies a function to the outputs of stops. -/
def mapStops {α : Type} (f : Value → Value) (stops : List (α × Value)) : List (α × Value) :=
  stops.map fun stop => (stop.1, f stop.2)

/-- Applies a function to the outputs of a mode. The attribute that the identity yields is not known
yet. -/
def mapMode (f : Value → Value) : AttributeMode → AttributeMode
  | .exponential base stops => .exponential base (mapStops f stops)
  | .interval stops => .interval (mapStops f stops)
  | .categorical stops => .categorical (mapStops f stops)
  | .identity => .identity

/-- Applies `f` to every value that a property function holds as an output. A null default is
none. -/
def mapOutputs (f : Value → Value) : PropertyFunction → PropertyFunction
  | .constant value => .constant (f value)
  | .zoom kind base stops => .zoom kind base (mapStops f stops)
  | .attribute name mode default =>
    .attribute name (mapMode f mode) (if default.isNull then default else f default)

end PropertyFunction

end MapStyling

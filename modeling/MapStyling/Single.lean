/-!
# Single precision

Opacities and the parts of colors are computed in double precision and kept in single precision.
`single` is the step between the two. It rounds to the nearest number, to the one with an even
significand where two are equally near, and to infinity what is beyond all numbers.
-/

namespace MapStyling

open Float.Model

/-- An unpacked number rounded to the significands and exponents of single precision. -/
def roundSingle : UnpackedFloat → UnpackedFloat
  | .finite sign significand exponent _ => .round .binary32 sign significand exponent
  | special => special

/-- A number in single precision. -/
def single (x : Float) : Float32 :=
  .ofModel (.pack (roundSingle x.toModel.unpack))

end MapStyling

set_option autoImplicit false

/-! # Lifetimes

Addresses carry absolute points in time, in milliseconds on the clock's own scale; requests carry
the whole seconds that remain. The remaining time never goes below zero, and the largest 32-bit
number stands for "for ever". -/

namespace MeshLink

/-- The point in time at which an address stops being preferred, or valid. -/
inductive Lifetime
  | permanent
  /-- Nobody told; treated as never. -/
  | unknown
  /-- A time in milliseconds on the clock's scale. -/
  | at (ms : Int64)
deriving DecidableEq

namespace Lifetime

/-- The number of seconds that stands for ever. -/
def infinite : UInt32 := 0xffffffff

/-- Whether the lifetime ends at a known time. -/
def isFinite : Lifetime → Bool
  | .at _ => true
  | _ => false

/-- A lifetime in words: `permanent`, `unknown`, or its milliseconds. -/
def text : Lifetime → String
  | .permanent => "permanent"
  | .unknown => "unknown"
  | .at ms => toString ms.toInt ++ "ms"

/-- The difference of two 64-bit times; one that does not fit gives the nearest time that does. -/
def saturatingSub (a b : Int64) : Int64 :=
  let d := a - b
  if (b < 0 && d < a) then Int64.maxValue
  else if (0 < b && a < d) then Int64.minValue
  else d

/-- The whole seconds from `now` until the lifetime ends: zero once it has, and at most the
    infinite lifetime. -/
def remaining (l : Lifetime) (now : Int64) : UInt32 :=
  match l with
  | .permanent | .unknown => infinite
  | .at ms =>
    let seconds := saturatingSub ms now / 1000
    if seconds < 0 then 0
    else if seconds > 4294967295 then infinite
    else seconds.toInt.toNat.toUInt32

end Lifetime
end MeshLink

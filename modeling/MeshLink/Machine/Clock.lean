import MeshLink.Kernel.Errno
set_option autoImplicit false

/-! # The boot clock

Milliseconds since boot. The clock that also counts the time spent suspended is read first, the
one that does not second; where neither can be read the time is zero. -/

namespace MeshLink

/-- What a clock shows: seconds and nanoseconds, or the error of reading it. -/
abbrev ClockReading := Except Errno (Int64 × Int64)

/-- A reading in whole milliseconds. -/
def milliseconds (seconds nanoseconds : Int64) : Int64 :=
  seconds * 1000 + nanoseconds / 1000000

/-- The time since boot, from the clock that counts suspension and the one that does not. -/
def bootTime (boot monotonic : ClockReading) : Int64 :=
  match boot, monotonic with
  | .ok (s, ns), _ => milliseconds s ns
  | .error _, .ok (s, ns) => milliseconds s ns
  | .error _, .error _ => 0

end MeshLink

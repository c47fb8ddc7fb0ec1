set_option autoImplicit false

/-! # Sequence numbers

Requests are numbered by a 32-bit counter that starts at zero and wraps around. Counters are
shared: a clone of a counter draws from the same numbers, a new counter starts its own. -/

namespace MeshLink

/-- Takes the next number of a counter. -/
def takeNumber : StateM UInt32 UInt32 := fun n => (n, n + 1)

/-- Counters, some of which draw from the same numbers: for each counter the place of the numbers
    it draws from, and for each place the next number. -/
structure Counters where
  places : List Nat
  next : List UInt32
deriving DecidableEq

namespace Counters

/-- One counter that has not been used. -/
def single : Counters :=
  ⟨[0], [0]⟩

/-- Adds a counter with numbers of its own. -/
def fresh (cs : Counters) : Counters :=
  ⟨cs.places ++ [cs.next.length], cs.next ++ [0]⟩

/-- Adds a counter that shares the numbers of counter `i`. -/
def clone (cs : Counters) (i : Nat) : Counters :=
  match cs.places[i]? with
  | some place => { cs with places := cs.places ++ [place] }
  | none => cs

/-- Takes the next number of counter `i`, if there is such a counter. -/
def take (cs : Counters) (i : Nat) : Option UInt32 × Counters :=
  match cs.places[i]? with
  | none => (none, cs)
  | some place =>
    match cs.next[place]? with
    | none => (none, cs)
    | some n =>
      let (number, after) := takeNumber n
      (some number, { cs with next := cs.next.set place after })

end Counters
end MeshLink

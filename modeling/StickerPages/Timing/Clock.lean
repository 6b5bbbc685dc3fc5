/-!
# Reading a clock

A timer that is to ring after some time asks its clock twice: now, and for the instant at which it is
to ring. What it waits for is the difference of the two readings. A clock with a coarse grain rounds
each reading to the nearest grain, and so the wait can come out longer than the time between the two
instants; then the timer rings just after the instant, and whoever looks at the instant itself sees
the job still waiting.

A clock counted in seconds since 1970 with 53 bits has grains of 2⁻²² seconds in our time: a
millisecond is 524288/125 grains.
-/

namespace StickerPages.Timing

/-- How a clock is read: to the point, or in grains of 2⁻²² seconds. -/
inductive Clock where
  | exact
  | grained
deriving DecidableEq, Repr

/-- The nearest grain to an instant in milliseconds. -/
def grain (ms : Nat) : Nat := (ms * 524288 + 62) / 125

/-- How far the reading is ahead of the instant, in 125ths of a grain. -/
def ahead (ms : Nat) : Int := grain ms * 125 - ms * 524288

/-- A wait that starts at one instant ends after the other. -/
def Clock.late (c : Clock) (start finish : Nat) : Bool :=
  match c with
  | .exact => false
  | .grained => ahead start < ahead finish

/-- A reading is never off by more than half a grain. -/
theorem ahead_le (ms : Nat) : -62 ≤ ahead ms ∧ ahead ms ≤ 62 := by
  unfold ahead grain
  omega

/-- No time, no delay. -/
theorem Clock.late_self (c : Clock) (t : Nat) : c.late t t = false := by
  cases c <;> simp [late]

end StickerPages.Timing

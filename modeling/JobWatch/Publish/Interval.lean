/-!
# Repeating timers

A repeating timer keeps to its own schedule: each tick is due one period after the previous tick was
due. A tick that is noticed more than five milliseconds late starts the schedule afresh from then.
Times are milliseconds.
-/

namespace JobWatch

/-- When the tick after one that was due at `due` and is noticed at `now` is due. -/
def nextTick (period due now : Nat) : Nat := if due + 5 < now then now + period else due + period

end JobWatch

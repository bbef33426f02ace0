import Mathlib.Algebra.Order.Field.Rat
import Mathlib.Data.Rat.Floor

/-! # Round-trip times and the congestion window

Both estimators work on exact rationals where the code uses doubles. -/

namespace Utp

structure UtpRttTracker where
  rtt : ℚ
  baseDelay : ℚ
  rttVar : ℚ
  rto : ℚ
  deriving DecidableEq

namespace UtpRttTracker

def MIN_RTO : ℚ := 1000

def MAX_RTO : ℚ := 6000

def create : UtpRttTracker := ⟨0, 0, 0, MIN_RTO⟩

/-- The new sample enters `rtt` and `rttVar` before the sanity check may fail;
after a failure only these two have changed. -/
def update (self : UtpRttTracker) (now sentTime : Nat) : UtpRttTracker :=
  let ertt : ℚ := max ((now : ℚ) - sentTime) 1
  let sampled : UtpRttTracker :=
    if self.rtt = 0 then { self with rtt := ertt, rttVar := ertt / 2 }
    else
      { self with
        rttVar := self.rttVar + (|self.rtt - ertt| - self.rttVar) / 4
        rtt := self.rtt * 7 / 8 + ertt / 8 }
  if MAX_RTO ≤ sampled.rtt then sampled
  else
    { sampled with
      baseDelay := if sampled.baseDelay = 0 ∨ sampled.rtt < sampled.baseDelay then sampled.rtt
        else sampled.baseDelay
      rto := max (sampled.rtt + sampled.rttVar * 4) MIN_RTO }

end UtpRttTracker

structure UtpCongestionControl where
  windowSize : ℚ
  baseDelay : ℚ
  queueDelay : ℚ
  targetDelay : ℚ
  lastMaxDelay : ℚ
  gain : ℚ
  deriving DecidableEq

namespace UtpCongestionControl

/-- `Number.MAX_SAFE_INTEGER` -/
def MAX_SAFE_INTEGER : ℚ := 9007199254740991

def create (windowSize : ℚ) : UtpCongestionControl where
  windowSize := windowSize
  baseDelay := MAX_SAFE_INTEGER
  queueDelay := 0
  targetDelay := 100
  lastMaxDelay := 0
  gain := 1

def updateWindowSize (self : UtpCongestionControl) : UtpCongestionControl :=
  let offTarget := (self.targetDelay - self.queueDelay) / self.targetDelay
  let windowIncrease := self.gain * offTarget
  let windowSize :=
    if self.queueDelay ≤ self.targetDelay then self.windowSize + windowIncrease
    else if self.lastMaxDelay < self.queueDelay then self.windowSize * (1 - windowIncrease)
    else self.windowSize
  { self with
    windowSize := ⌈max windowSize 1⌉
    lastMaxDelay := self.queueDelay }

def updateRtt (self : UtpCongestionControl) (measuredRtt : ℚ) : UtpCongestionControl :=
  let baseDelay := min self.baseDelay measuredRtt
  ({ self with baseDelay := baseDelay, queueDelay := measuredRtt - baseDelay } :
    UtpCongestionControl).updateWindowSize

def onPacketLoss (self : UtpCongestionControl) : UtpCongestionControl :=
  { self with windowSize := max (self.windowSize * (1 / 2)) 1 }

def reset (self : UtpCongestionControl) : UtpCongestionControl :=
  { self with windowSize := 1, baseDelay := MAX_SAFE_INTEGER, queueDelay := 0, lastMaxDelay := 0 }

end UtpCongestionControl

end Utp

import SoakRig.Binary64.Arithmetic

/-!
# Timing statistics

Nearest-rank percentiles and the statistics of a run. Every percentile is one of the samples.
-/

namespace SoakRig

namespace Timing

/-- The samples from the smallest to the largest. -/
def sorted (samples : List Binary64) : List Binary64 :=
  samples.mergeSort fun x y => x.rank ≤ y.rank

/-- The rank of proportion `p` among `n` samples, which lies from 1 to `n`. -/
def rankOf (p : Binary64) (n : Nat) : Nat :=
  max 1 (min (p.mul (Binary64.ofNat n)).ceilCount n)

/-- The sample at the rank of proportion `p`; zero if there are none. -/
def atRank (sorted : List Binary64) (p : Binary64) : Binary64 :=
  sorted[rankOf p sorted.length - 1]?.getD .zero

/-- The percentile of the samples at proportion `p`. -/
def percentile (samples : List Binary64) (p : Binary64) : Binary64 := atRank (sorted samples) p

/-- One half. -/
def half : Binary64 := ⟨0x3fe0000000000000⟩

/-- The number nearest to 0.95. -/
def nineteenTwentieths : Binary64 := ⟨0x3fee666666666666⟩

end Timing

/-- Statistics of samples, in seconds. -/
structure Timing where
  avg : Binary64
  p50 : Binary64
  p95 : Binary64
  min : Binary64
  max : Binary64
deriving DecidableEq

namespace Timing

/-- The statistics of no samples. -/
def empty : Timing := ⟨.zero, .zero, .zero, .zero, .zero⟩

/-- The statistics of the samples. The mean adds them from the smallest to the largest. -/
def ofSamples (samples : List Binary64) : Timing :=
  let s := sorted samples
  if s.isEmpty then empty
  else
    { avg := (Binary64.sum s).div (Binary64.ofNat s.length)
      p50 := atRank s half
      p95 := atRank s nineteenTwentieths
      min := s.head?.getD .zero
      max := s.getLast?.getD .zero }

end Timing

end SoakRig

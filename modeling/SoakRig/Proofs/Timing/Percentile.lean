import SoakRig.Proofs.Binary64.Rounding
import SoakRig.Timing

/-!
# Percentiles by counting

The sorted samples are in the total order, in which no two bit patterns share a place, so they do
not depend on the order in which the samples came, and neither does any statistic. The sample at a
rank is the one with fewer samples before it than the rank says and at least as many up to it.
-/

namespace SoakRig.Timing

variable {samples others : List Binary64} {p q v w : Binary64} {n r i : Nat}

section Sorted

lemma perm_sorted (samples : List Binary64) : (sorted samples).Perm samples :=
  List.mergeSort_perm samples _

lemma length_sorted (samples : List Binary64) : (sorted samples).length = samples.length :=
  (perm_sorted samples).length_eq

/-- The ranks of the sorted samples do not fall. -/
lemma pairwise_sorted (samples : List Binary64) :
    (sorted samples).Pairwise fun x y => x.rank ≤ y.rank := by
  have total (x y : Binary64) : (decide (x.rank ≤ y.rank) || decide (y.rank ≤ x.rank)) = true := by
    rw [Bool.or_eq_true, decide_eq_true_eq, decide_eq_true_eq]
    exact Int.le_total x.rank y.rank
  have trans (x y z : Binary64) (xy : decide (x.rank ≤ y.rank) = true)
      (yz : decide (y.rank ≤ z.rank) = true) : decide (x.rank ≤ z.rank) = true := by
    rw [decide_eq_true_eq] at xy yz ⊢
    exact Int.le_trans xy yz
  exact (List.pairwise_mergeSort trans total samples).imp of_decide_eq_true

/-- The same samples are sorted the same, in whatever order they come. -/
lemma sorted_eq_of_perm (perm : samples.Perm others) : sorted samples = sorted others := by
  refine List.Perm.eq_of_pairwise (fun x y _ _ xy yx => ?_) (pairwise_sorted samples)
    (pairwise_sorted others) ?_
  · exact Binary64.eq_of_rank_eq (Int.le_antisymm xy yx)
  · exact ((perm_sorted samples).trans perm).trans (perm_sorted others).symm

/--
The statistics and percentiles of the same samples in another order are the same bits, since the
samples are sorted before they are added up.
-/
theorem ofSamples_perm (perm : samples.Perm others) :
    sorted samples = sorted others ∧ ofSamples samples = ofSamples others ∧
      ∀ p, percentile samples p = percentile others p := by
  have same := sorted_eq_of_perm perm
  refine ⟨same, ?_, fun p => ?_⟩
  · rw [ofSamples, ofSamples, same]
  · rw [percentile, percentile, same]

/-- Three numbers whose sum depends on the order: 0.1, 0.2 and 0.3. -/
def tenths : List Binary64 := [⟨0x3fb999999999999a⟩, ⟨0x3fc999999999999a⟩, ⟨0x3fd3333333333333⟩]

/-- Both zeros, the number two twice, and what is no number with both signs, quiet and not. -/
def oddSamples : List Binary64 :=
  [.nan, .zero, ⟨0x4000000000000000⟩, ⟨0xfff8000000000001⟩, .negativeZero, ⟨0x7ff0000000000001⟩,
    ⟨0x4000000000000000⟩]

/-- The mean of three tenths is the same from both ends, though their sums are not. -/
theorem ofSamples_perm_reverse :
    tenths.Perm tenths.reverse ∧ Binary64.sum tenths ≠ Binary64.sum tenths.reverse ∧
      ofSamples tenths = ofSamples tenths.reverse ∧
      oddSamples.Perm oddSamples.reverse ∧ sorted oddSamples = sorted oddSamples.reverse ∧
      percentile oddSamples half = percentile oddSamples.reverse half := by
  have tenths_perm : tenths.Perm tenths.reverse := tenths.reverse_perm.symm
  have odd_perm : oddSamples.Perm oddSamples.reverse := oddSamples.reverse_perm.symm
  obtain ⟨-, statistics, -⟩ := ofSamples_perm tenths_perm
  obtain ⟨same, -, percentiles⟩ := ofSamples_perm odd_perm
  exact ⟨tenths_perm, by decide +kernel, statistics, odd_perm, same, percentiles half⟩

end Sorted

section Counting

/-- Fewer samples than the rank come before this one, and at least as many do not come behind it. -/
structure HasRank (samples : List Binary64) (r : Nat) (v : Binary64) : Prop where
  mem : v ∈ samples
  before : samples.countP (fun x => x.Before v) < r
  upTo : r ≤ samples.countP (fun x => ¬v.Before x)

variable {front back : List Binary64}

/-- In ascending samples only the front may come before a sample. -/
lemma countP_before_le (ascending : (front ++ v :: back).Pairwise fun x y => x.rank ≤ y.rank) :
    (front ++ v :: back).countP (fun x => x.Before v) ≤ front.length := by
  obtain ⟨-, rest, -⟩ := List.pairwise_append.1 ascending
  have nothing : (v :: back).countP (fun x => x.Before v) = 0 := by
    rw [List.countP_eq_zero]
    intro x mem
    rw [decide_eq_true_eq, Binary64.before_iff, Int.not_lt]
    cases mem with
    | head => exact Int.le_refl _
    | tail _ later => exact (List.pairwise_cons.1 rest).1 x later
  rw [List.countP_append, nothing]
  exact List.countP_le_length

/-- In ascending samples neither the front nor the sample itself comes behind it. -/
lemma lt_countP_upTo (ascending : (front ++ v :: back).Pairwise fun x y => x.rank ≤ y.rank) :
    front.length < (front ++ v :: back).countP fun x => ¬v.Before x := by
  obtain ⟨-, -, between⟩ := List.pairwise_append.1 ascending
  have all : front.countP (fun x => ¬v.Before x) = front.length := by
    rw [List.countP_eq_length]
    intro x mem
    rw [decide_eq_true_eq, Binary64.before_iff, Int.not_lt]
    exact between x mem v List.mem_cons_self
  have self : 0 < (v :: back).countP fun x => ¬v.Before x := by
    rw [List.countP_pos_iff]
    refine ⟨v, List.mem_cons_self, ?_⟩
    rw [decide_eq_true_eq, Binary64.before_iff]
    exact Int.lt_irrefl _
  rw [List.countP_append, all]
  exact Nat.lt_add_of_pos_right self

/-- The sorted samples are in the order of their ranks, counted from one. -/
lemma hasRank_of_getElem? (at_i : (sorted samples)[i]? = some v) : HasRank samples (i + 1) v := by
  have ascending := pairwise_sorted samples
  have perm := perm_sorted samples
  obtain ⟨lt, rfl⟩ := List.getElem?_eq_some_iff.1 at_i
  generalize e : (sorted samples)[i] = v
  have split : sorted samples = (sorted samples).take i ++ v :: (sorted samples).drop (i + 1) := by
    rw [← e, ← List.drop_eq_getElem_cons lt, List.take_append_drop]
  have length : ((sorted samples).take i).length = i := List.length_take_of_le (Nat.le_of_lt lt)
  rw [split] at ascending perm
  constructor
  case mem => exact perm.mem_iff.1 (List.mem_append_right _ List.mem_cons_self)
  case before =>
    have few := countP_before_le ascending
    rw [perm.countP_eq, length] at few
    exact Nat.lt_succ_of_le few
  case upTo =>
    have many := lt_countP_upTo ascending
    rwa [perm.countP_eq, length] at many

/-- Of two samples of one rank the first does not come before the second. -/
lemma HasRank.not_before (hv : HasRank samples r v) (hw : HasRank samples r w) : ¬v.Before w := by
  intro before
  have le : samples.countP (fun x => ¬v.Before x) ≤ samples.countP (fun x => x.Before w) := by
    apply List.countP_mono_left
    intro x _ not_behind
    rw [decide_eq_true_eq, Binary64.before_iff] at not_behind ⊢
    rw [Binary64.before_iff] at before
    omega
  exact absurd (Nat.lt_of_le_of_lt le hw.before) (Nat.not_lt.2 hv.upTo)

/-- There is one sample of a rank. -/
lemma HasRank.unique (hv : HasRank samples r v) (hw : HasRank samples r w) : v = w :=
  Binary64.eq_of_not_before (hv.not_before hw) (hw.not_before hv)

end Counting

section Ranks

lemma rankOf_pos (p : Binary64) (n : Nat) : 1 ≤ rankOf p n := Nat.le_max_left _ _

lemma rankOf_le (p : Binary64) (some : 0 < n) : rankOf p n ≤ n :=
  Nat.max_le.2 ⟨some, Nat.min_le_right _ _⟩

/-- A count from one to the number of samples is a rank as it is. -/
lemma rankOf_eq (count : (p.mul (.ofNat n)).ceilCount = r) (pos : 0 < r) (le : r ≤ n) :
    rankOf p n = r := by
  rw [rankOf, count, Nat.min_eq_left le, Nat.max_eq_right pos]

/-- The rank of a percentile is that of a sample, however strange the proportion. -/
lemma getElem?_percentile (some_samples : samples ≠ []) (p : Binary64) :
    (sorted samples)[rankOf p samples.length - 1]? = some (percentile samples p) := by
  have pos := rankOf_pos p samples.length
  have le := rankOf_le p (List.length_pos_iff.2 some_samples)
  have inside : rankOf p samples.length - 1 < (sorted samples).length := by
    rw [length_sorted]
    omega
  rw [percentile, atRank, length_sorted, List.getElem?_eq_getElem inside, Option.getD_some]

/-- A percentile is the sample of its rank. -/
lemma hasRank_percentile (some_samples : samples ≠ []) (p : Binary64) :
    HasRank samples (rankOf p samples.length) (percentile samples p) := by
  have pos := rankOf_pos p samples.length
  have at_rank := hasRank_of_getElem? (getElem?_percentile some_samples p)
  rwa [Nat.sub_add_cancel pos] at at_rank

lemma sorted_nil : sorted [] = [] := List.mergeSort_nil

/-- Without samples every percentile is zero, and so are all statistics. -/
lemma percentile_nil (p : Binary64) : percentile [] p = .zero := by
  rw [percentile, atRank, sorted_nil, List.getElem?_nil, Option.getD_none]

lemma ofSamples_nil : ofSamples [] = ⟨.zero, .zero, .zero, .zero, .zero⟩ := by
  rw [ofSamples, sorted_nil]
  rfl

/-- One. -/
def one : Binary64 := ⟨0x3ff0000000000000⟩

lemma units_one : one.units = twoTo Binary64.unitExponent := by decide +kernel

lemma one_mul_ofNat (few : n ≤ twoTo 53) : one.mul (.ofNat n) = .ofNat n := by
  have finite : one.IsFinite := by decide
  have sign : one.negative = false := by decide
  rw [Binary64.mul_ofNat finite few, sign, units_one, Nat.mul_comm]
  rfl

/-- The whole of the samples ends at the last one. -/
lemma rankOf_one (some : 0 < n) (few : n ≤ twoTo 53) : rankOf one n = n := by
  apply rankOf_eq _ some (Nat.le_refl n)
  rw [one_mul_ofNat few, Binary64.ceilCount_ofNat few]

lemma percentile_one (some_samples : samples ≠ []) (few : samples.length ≤ twoTo 53) :
    percentile samples one = (sorted samples)[samples.length - 1]?.getD .zero := by
  rw [percentile, atRank, length_sorted, rankOf_one (List.length_pos_iff.2 some_samples) few]

/-- The least part of the samples is the first one. -/
lemma rankOf_zero (n : Nat) : rankOf .zero n = 1 := by
  rw [rankOf, Binary64.ceilCount_zero_mul, Nat.zero_min]
  rfl

lemma percentile_zero (samples : List Binary64) :
    percentile samples .zero = (sorted samples)[0]?.getD .zero := by
  rw [percentile, atRank, rankOf_zero]

lemma ofSamples_of_ne_nil (some_samples : samples ≠ []) :
    ofSamples samples =
      { avg := (Binary64.sum (sorted samples)).div (.ofNat samples.length)
        p50 := percentile samples half
        p95 := percentile samples nineteenTwentieths
        min := percentile samples .zero
        max := (sorted samples)[samples.length - 1]?.getD .zero } := by
  have some_sorted : (sorted samples).isEmpty = false := by
    rw [List.isEmpty_eq_false_iff, ← List.length_pos_iff, length_sorted]
    exact List.length_pos_iff.2 some_samples
  simp only [ofSamples, some_sorted, Bool.false_eq_true, if_false, List.head?_eq_getElem?,
    List.getLast?_eq_getElem?, length_sorted, percentile_zero]
  rfl

/-- The statistics but the mean are percentiles. -/
lemma ofSamples_percentiles (samples : List Binary64) :
    (ofSamples samples).min = percentile samples .zero ∧
    (ofSamples samples).p50 = percentile samples half ∧
    (ofSamples samples).p95 = percentile samples nineteenTwentieths ∧
    (samples.length ≤ twoTo 53 → (ofSamples samples).max = percentile samples one) := by
  by_cases none : samples = []
  · subst none
    have nothing (p : Binary64) := (percentile_nil p).symm
    rw [ofSamples_nil]
    exact ⟨nothing .zero, nothing half, nothing nineteenTwentieths, fun _ => nothing one⟩
  · rw [ofSamples_of_ne_nil none]
    exact ⟨rfl, rfl, rfl, fun few => (percentile_one none few).symm⟩

/-- A percentile of no lower rank does not come before. -/
lemma not_before_of_rankOf_le (some_samples : samples ≠ [])
    (le : rankOf p samples.length ≤ rankOf q samples.length) :
    ¬(percentile samples q).Before (percentile samples p) := by
  obtain ⟨p_lt, p_at⟩ := List.getElem?_eq_some_iff.1 (getElem?_percentile some_samples p)
  obtain ⟨q_lt, q_at⟩ := List.getElem?_eq_some_iff.1 (getElem?_percentile some_samples q)
  rw [Binary64.before_iff, Int.not_lt, ← p_at, ← q_at]
  rcases Nat.eq_or_lt_of_le (Nat.sub_le_sub_right le 1) with same | earlier
  · simp only [same]
    exact Int.le_refl _
  · exact List.pairwise_iff_getElem.1 (pairwise_sorted samples) _ _ p_lt q_lt earlier

end Ranks

/--
Every percentile of some samples is the one sample of its rank, and the rank lies within the
samples for every proportion, no number included. The statistics are such percentiles, the greatest
sample as long as the number of samples is a floating-point number; of no samples all are zero.
-/
theorem percentile_hasRank (samples : List Binary64) :
    (samples ≠ [] → ∀ p,
      (1 ≤ rankOf p samples.length ∧ rankOf p samples.length ≤ samples.length) ∧
      (sorted samples)[rankOf p samples.length - 1]? = some (percentile samples p) ∧
      ∀ v, HasRank samples (rankOf p samples.length) v ↔ v = percentile samples p) ∧
    (ofSamples samples).min = percentile samples .zero ∧
    (ofSamples samples).p50 = percentile samples half ∧
    (ofSamples samples).p95 = percentile samples nineteenTwentieths ∧
    (samples.length ≤ twoTo 53 → (ofSamples samples).max = percentile samples one) ∧
    (samples = [] → ofSamples samples = ⟨.zero, .zero, .zero, .zero, .zero⟩) := by
  constructor
  · intro some_samples p
    refine ⟨⟨rankOf_pos p _, rankOf_le p (List.length_pos_iff.2 some_samples)⟩,
      getElem?_percentile some_samples p, fun v => ⟨fun ranked => ?_, ?_⟩⟩
    · exact ranked.unique (hasRank_percentile some_samples p)
    · rintro rfl
      exact hasRank_percentile some_samples p
  obtain ⟨least, middle, most, greatest⟩ := ofSamples_percentiles samples
  refine ⟨least, middle, most, greatest, ?_⟩
  rintro rfl
  exact ofSamples_nil

/-- The middle of seven samples is a two, and a proportion that is no number gives the first. -/
theorem percentile_hasRank_odd :
    oddSamples ≠ [] ∧ oddSamples.length ≤ twoTo 53 ∧
      HasRank oddSamples 4 ⟨0x4000000000000000⟩ ∧
      percentile oddSamples half = ⟨0x4000000000000000⟩ ∧
      percentile oddSamples .nan = ⟨0xfff8000000000001⟩ ∧
      percentile oddSamples (.infinity false) = .nan ∧
      (ofSamples oddSamples).max = percentile oddSamples one := by
  have some_samples : oddSamples ≠ [] := by decide
  have few : oddSamples.length ≤ twoTo 53 := by decide
  obtain ⟨ranks, -, -, -, greatest, -⟩ := percentile_hasRank oddSamples
  obtain ⟨-, -, middle⟩ := ranks some_samples half
  obtain ⟨-, -, first⟩ := ranks some_samples .nan
  obtain ⟨-, -, last⟩ := ranks some_samples (.infinity false)
  have middle_rank : rankOf half oddSamples.length = 4 := by decide +kernel
  have first_rank : rankOf .nan oddSamples.length = 1 := by decide +kernel
  have last_rank : rankOf (.infinity false) oddSamples.length = 7 := by decide +kernel
  rw [middle_rank] at middle
  rw [first_rank] at first
  rw [last_rank] at last
  have two : HasRank oddSamples 4 ⟨0x4000000000000000⟩ :=
    ⟨by decide, by decide +kernel, by decide +kernel⟩
  exact ⟨some_samples, few, two, ((middle _).1 two).symm,
    ((first _).1 ⟨by decide, by decide +kernel, by decide +kernel⟩).symm,
    ((last _).1 ⟨by decide, by decide +kernel, by decide +kernel⟩).symm, greatest few⟩

end SoakRig.Timing

import PoolHealth.Pool.WaitSamples
import Mathlib.Algebra.Order.BigOperators.Group.List
import Mathlib.Data.Finset.Max
import Mathlib.Data.List.Induction
import Mathlib.Tactic.Ring

/-!
# The rolling average of waiting times

The sum of the samples is never computed afresh: each one is added when it comes and taken
off when it goes, and both operations stop at the ends of the range.  Nothing is ever lost in
this way as long as the samples that are kept together add up to a duration, however many
there have been.
-/

namespace PoolHealth

namespace Duration

variable {a b : Duration}

theorem nanos_add_of_le (h : a.nanos + b.nanos ≤ maxNanos) :
    (a.add b).nanos = a.nanos + b.nanos :=
  nanos_ofNanos_of_le h

theorem secs_share (d : Duration) (k : Nat) : (d.share k).secs = d.secs / k := by
  unfold secs
  rw [nanos_share, Nat.div_div_eq_div_mul, Nat.div_div_eq_div_mul, Nat.mul_comm]

/-- The seconds that cannot be shared equally are shared together with the rest. -/
theorem subsecNanos_share (d : Duration) {k : Nat} (hk : 0 < k) :
    (d.share k).subsecNanos =
      d.subsecNanos / k + (d.secs % k * nanosPerSec + d.subsecNanos % k) / k := by
  have hwhole : nanosPerSec * d.secs + d.subsecNanos = d.nanos := Nat.div_add_mod _ _
  have hsplit : d.nanos =
      k * (d.secs / k * nanosPerSec + d.subsecNanos / k) +
        (d.secs % k * nanosPerSec + d.subsecNanos % k) :=
    calc d.nanos
        = nanosPerSec * (k * (d.secs / k) + d.secs % k) +
            (k * (d.subsecNanos / k) + d.subsecNanos % k) := by
          rw [Nat.div_add_mod, Nat.div_add_mod, hwhole]
      _ = _ := by ring
  have hshare : (d.share k).nanos = d.secs / k * nanosPerSec + d.subsecNanos / k +
      (d.secs % k * nanosPerSec + d.subsecNanos % k) / k := by
    rw [nanos_share, hsplit, Nat.mul_add_div hk]
  have hparts : nanosPerSec * (d.share k).secs + (d.share k).subsecNanos = (d.share k).nanos :=
    Nat.div_add_mod _ _
  rw [secs_share, Nat.mul_comm] at hparts
  omega

end Duration

namespace WaitSamples

variable {waits recorded stretch : List Duration} {wait : Duration}

def ofWaits (waits : List Duration) : WaitSamples := waits.foldl record empty

def latest (waits : List Duration) : List Duration := waits.drop (waits.length - capacity)

/-- The exact sum, which may be past the range of durations. -/
def total (waits : List Duration) : Nat := (waits.map (·.nanos)).sum

@[simp] theorem total_append (waits others : List Duration) :
    total (waits ++ others) = total waits + total others := by
  simp [total]

@[simp] theorem total_singleton (wait : Duration) : total [wait] = wait.nanos := by
  simp [total]

theorem ofWaits_concat (waits : List Duration) (wait : Duration) :
    ofWaits (waits ++ [wait]) = (ofWaits waits).record wait :=
  List.foldl_concat _ _ _ _

theorem isCounted_ofWaits (waits : List Duration) : (ofWaits waits).IsCounted := by
  induction waits using List.reverseRecOn with
  | nil =>
      exact isCounted_empty
  | append_singleton waits wait ih =>
      rw [ofWaits_concat]
      exact ih.record wait

/-!
## Which samples are kept
-/

theorem length_latest (waits : List Duration) :
    (latest waits).length = min waits.length capacity := by
  unfold latest
  rw [List.length_drop]
  omega

theorem latest_concat_of_room (h : waits.length < capacity) :
    latest (waits ++ [wait]) = latest waits ++ [wait] := by
  unfold latest
  have hnone : waits.length - capacity = 0 := by omega
  have hnone' : waits.length + 1 - capacity = 0 := by omega
  rw [List.length_append, List.length_singleton, hnone, hnone']
  rfl

theorem exists_latest_of_full (h : capacity ≤ waits.length) :
    exists oldest rest,
      latest waits = oldest :: rest ∧
        forall wait, latest (waits ++ [wait]) = rest ++ [wait] := by
  have hlength := length_latest waits
  rw [Nat.min_eq_right h] at hlength
  cases hlatest : latest waits with
  | nil =>
      rw [hlatest] at hlength
      cases hlength
  | cons oldest rest =>
      refine ⟨oldest, rest, rfl, ?_⟩
      intro wait
      have hnext : waits.length - capacity + 1 = waits.length + 1 - capacity := by omega
      have hfew : waits.length + 1 - capacity ≤ waits.length := by
        have hroom : 0 < capacity := by decide
        omega
      have hrest : rest = waits.drop (waits.length + 1 - capacity) := by
        rw [← hnext, ← List.drop_drop]
        exact (congrArg (List.drop 1) hlatest).symm
      unfold latest
      rw [List.length_append, List.length_singleton, List.drop_append_of_le_length hfew, hrest]

theorem record_of_room {w : WaitSamples} (h : w.count ≠ capacity) :
    w.record wait = ⟨w.samples ++ [wait], w.count + 1, w.sum.add wait⟩ := by
  unfold record makeRoom
  rw [if_neg h]

theorem record_of_full {w : WaitSamples} {oldest : Duration} {rest : List Duration}
    (h : w.count = capacity) (hsamples : w.samples = oldest :: rest) :
    w.record wait = ⟨rest ++ [wait], w.count - 1 + 1, (w.sum.sub oldest).add wait⟩ := by
  unfold record makeRoom
  rw [if_pos h, hsamples]

theorem samples_ofWaits (waits : List Duration) : (ofWaits waits).samples = latest waits := by
  induction waits using List.reverseRecOn with
  | nil =>
      rfl
  | append_singleton waits wait ih =>
      have hcount := (isCounted_ofWaits waits).1
      rw [ih, length_latest] at hcount
      rw [ofWaits_concat]
      by_cases hfull : capacity ≤ waits.length
      · rcases exists_latest_of_full hfull with ⟨oldest, rest, hlatest, hnext⟩
        rw [Nat.min_eq_right hfull] at hcount
        rw [record_of_full hcount (ih.trans hlatest), hnext]
      · rw [record_of_room (by omega), latest_concat_of_room (by omega), ih]

theorem count_ofWaits (waits : List Duration) :
    (ofWaits waits).count = (latest waits).length := by
  rw [← samples_ofWaits]
  exact (isCounted_ofWaits waits).1

/-!
## What they add up to
-/

theorem sum_record (h : (ofWaits waits).sum.nanos = total (latest waits))
    (hfits : total (latest (waits ++ [wait])) ≤ Duration.maxNanos) :
    (ofWaits (waits ++ [wait])).sum.nanos = total (latest (waits ++ [wait])) := by
  have hcount := count_ofWaits waits
  rw [length_latest] at hcount
  rw [ofWaits_concat]
  by_cases hfull : capacity ≤ waits.length
  · rcases exists_latest_of_full hfull with ⟨oldest, rest, hlatest, hnext⟩
    rw [Nat.min_eq_right hfull] at hcount
    rw [hnext, total_append, total_singleton] at hfits ⊢
    have hwithout : ((ofWaits waits).sum.sub oldest).nanos = total rest := by
      rw [Duration.nanos_sub, h, hlatest]
      exact Nat.add_sub_cancel_left _ _
    rw [record_of_full hcount ((samples_ofWaits waits).trans hlatest)]
    rw [← hwithout] at hfits ⊢
    exact Duration.nanos_add_of_le hfits
  · rw [latest_concat_of_room (by omega), total_append, total_singleton, ← h] at hfits ⊢
    rw [record_of_room (by omega)]
    exact Duration.nanos_add_of_le hfits

theorem sum_ofWaits (hfits : forall recorded, recorded <+: waits ->
    total (latest recorded) ≤ Duration.maxNanos) :
    (ofWaits waits).sum.nanos = total (latest waits) := by
  induction waits using List.reverseRecOn with
  | nil =>
      rfl
  | append_singleton waits wait ih =>
      have hbefore : waits <+: waits ++ [wait] := List.prefix_append _ _
      apply sum_record (ih fun recorded hrecorded => hfits recorded (hrecorded.trans hbefore))
      exact hfits _ (List.prefix_refl _)

/-- Waiting times that follow one another add up to a duration, if they are as many as can be
kept together. -/
def Bounded (waits : List Duration) : Prop :=
  forall stretch, stretch <:+: waits -> stretch.length = min waits.length capacity ->
    total stretch ≤ Duration.maxNanos

theorem total_le_of_begins (h : recorded <+: waits) : total recorded ≤ total waits := by
  rcases h with ⟨later, rfl⟩
  rw [total_append]
  exact Nat.le_add_right _ _

theorem bounded_iff :
    Bounded waits <->
      forall recorded, recorded <+: waits -> total (latest recorded) ≤ Duration.maxNanos := by
  constructor
  · intro hbounded recorded hrecorded
    have hle := hrecorded.length_le
    by_cases hfull : capacity ≤ recorded.length
    · apply hbounded
      · exact (List.drop_suffix _ _).isInfix.trans hrecorded.isInfix
      · rw [length_latest]
        omega
    · have hall : latest recorded = recorded := by
        unfold latest
        rw [Nat.sub_eq_zero_of_le (by omega), List.drop_zero]
      have hlength : (waits.take (min waits.length capacity)).length =
          min waits.length capacity := by
        rw [List.length_take]
        omega
      have hfirst : recorded <+: waits.take (min waits.length capacity) :=
        List.prefix_of_prefix_length_le hrecorded (List.take_prefix _ _) (by omega)
      rw [hall]
      exact Nat.le_trans (total_le_of_begins hfirst)
        (hbounded _ (List.take_prefix _ _).isInfix hlength)
  · intro hfits stretch hstretch hlength
    rcases hstretch with ⟨earlier, later, rfl⟩
    have hlatest : latest (earlier ++ stretch) = stretch := by
      unfold latest
      have hfirst : (earlier ++ stretch).length - capacity = earlier.length := by
        simp only [List.length_append] at hlength ⊢
        omega
      rw [hfirst, List.drop_left]
    have hkept := hfits (earlier ++ stretch) (List.prefix_append _ _)
    rwa [hlatest] at hkept

/-- Nothing is lost at any time if and only if what is kept together always adds up to a
duration. -/
theorem sum_exact_iff :
    (forall recorded, recorded <+: waits ->
        (ofWaits recorded).sum.nanos = total (latest recorded)) <-> Bounded waits := by
  rw [bounded_iff]
  constructor
  · intro hexact recorded hrecorded
    rw [← hexact recorded hrecorded]
    exact (ofWaits recorded).sum.nanos_le
  · intro hfits recorded hrecorded
    exact sum_ofWaits fun earlier hearlier => hfits earlier (hearlier.trans hrecorded)

theorem total_le (n : Nat) (h : forall d, d ∈ waits -> d.nanos ≤ n) :
    total waits ≤ waits.length * n := by
  have hle := List.sum_le_card_nsmul (waits.map (·.nanos)) n (by simpa using h)
  rwa [List.length_map, Nat.nsmul_eq_mul] at hle

theorem le_total (n : Nat) (h : forall d, d ∈ waits -> n ≤ d.nanos) :
    waits.length * n ≤ total waits := by
  have hle := List.card_nsmul_le_sum (waits.map (·.nanos)) n (by simpa using h)
  rwa [List.length_map, Nat.nsmul_eq_mul] at hle

theorem bounded_of_le (h : forall d, d ∈ waits -> d.nanos * capacity ≤ Duration.maxNanos) :
    Bounded waits := by
  intro stretch hstretch hlength
  have hshort : forall d, d ∈ stretch -> d.nanos ≤ Duration.maxNanos / capacity := by
    intro d hd
    exact (Nat.le_div_iff_mul_le (by decide)).mpr (h d (hstretch.subset hd))
  calc total stretch
      ≤ stretch.length * (Duration.maxNanos / capacity) := total_le _ hshort
    _ ≤ capacity * (Duration.maxNanos / capacity) :=
        Nat.mul_le_mul_right _ (hlength ▸ Nat.min_le_right _ _)
    _ ≤ Duration.maxNanos := Nat.mul_div_le _ _

/-!
## What they come to on the average
-/

theorem average_ofWaits (waits : List Duration) :
    (ofWaits waits).average.nanos = (ofWaits waits).sum.nanos / (latest waits).length := by
  rw [← count_ofWaits]
  unfold average
  split
  · rename_i hnone
    rw [hnone, Nat.div_zero]
    rfl
  · rfl

theorem exists_extremes (h : waits ≠ []) :
    exists shortest, shortest ∈ waits ∧ exists longest, longest ∈ waits ∧
      forall d, d ∈ waits -> shortest ≤ d ∧ d ≤ longest := by
  have hsome : waits.toFinset.Nonempty := (List.toFinset_nonempty_iff waits).mpr h
  rcases Finset.exists_min_image waits.toFinset (·.nanos) hsome with ⟨shortest, hshortest, hleast⟩
  rcases Finset.exists_max_image waits.toFinset (·.nanos) hsome with ⟨longest, hlongest, hmost⟩
  refine ⟨shortest, List.mem_toFinset.mp hshortest, longest, List.mem_toFinset.mp hlongest, ?_⟩
  intro d hd
  exact ⟨hleast d (List.mem_toFinset.mpr hd), hmost d (List.mem_toFinset.mpr hd)⟩

theorem latest_ne_nil (h : waits ≠ []) : latest waits ≠ [] := by
  have hpos := List.length_pos_iff.mpr h
  have hroom : 0 < capacity := by decide
  apply List.ne_nil_of_length_pos
  rw [length_latest]
  omega

def divisor (w : WaitSamples) : UInt32 := w.count.toUInt32

theorem toNat_divisor (waits : List Duration) :
    (ofWaits waits).divisor.toNat = (latest waits).length := by
  have hfew : (latest waits).length ≤ capacity := by
    rw [length_latest]
    exact Nat.min_le_right _ _
  have hword : capacity < 2 ^ 32 := by decide
  unfold divisor
  rw [count_ofWaits, UInt32.toNat_ofNat', Nat.mod_eq_of_lt (by omega)]

structure Keeps (w : WaitSamples) (waits : List Duration) : Prop where
  samples : w.samples = latest waits
  length : (latest waits).length = min waits.length capacity
  none : waits = [] -> w.average = .zero
  some : waits ≠ [] -> w.divisor ≠ 0 ∧ w.average = w.sum.share w.divisor.toNat

theorem keeps_ofWaits (waits : List Duration) : Keeps (ofWaits waits) waits where
  samples := samples_ofWaits waits
  length := length_latest waits
  none := by
    rintro rfl
    rfl
  some := by
    intro hsome
    have hpos := List.length_pos_iff.mpr (latest_ne_nil hsome)
    have hdivisor := toNat_divisor waits
    constructor
    · intro hzero
      rw [hzero] at hdivisor
      exact hpos.ne hdivisor
    · apply Duration.ext
      rw [average_ofWaits, hdivisor, Duration.nanos_share]

/-- The sum and the average are exact, whether the sum is divided at once or in seconds and
nanoseconds apart. -/
structure Averages (w : WaitSamples) (kept : List Duration) : Prop where
  sum : w.sum.nanos = total kept
  average : w.average.nanos = total kept / kept.length
  secs : w.average.secs = w.sum.secs / kept.length
  subsecNanos : w.average.subsecNanos =
    w.sum.subsecNanos / kept.length +
      (w.sum.secs % kept.length * Duration.nanosPerSec + w.sum.subsecNanos % kept.length) /
        kept.length
  between : exists shortest, shortest ∈ kept ∧ exists longest, longest ∈ kept ∧
    (forall d, d ∈ kept -> shortest ≤ d ∧ d ≤ longest) ∧
    shortest ≤ w.average ∧ w.average ≤ longest

theorem averages_of_sum (hsome : waits ≠ [])
    (hsum : (ofWaits waits).sum.nanos = total (latest waits)) :
    Averages (ofWaits waits) (latest waits) := by
  have hkept := latest_ne_nil hsome
  have hpos := List.length_pos_iff.mpr hkept
  have hshare := ((keeps_ofWaits waits).some hsome).2
  rw [toNat_divisor] at hshare
  have haverage : (ofWaits waits).average.nanos = total (latest waits) / (latest waits).length := by
    rw [average_ofWaits, hsum]
  rcases exists_extremes hkept with ⟨shortest, hshortest, longest, hlongest, hall⟩
  constructor
  · exact hsum
  · exact haverage
  · rw [hshare, Duration.secs_share]
  · rw [hshare, Duration.subsecNanos_share _ hpos]
  · refine ⟨shortest, hshortest, longest, hlongest, hall, ?_, ?_⟩
    · show shortest.nanos ≤ (ofWaits waits).average.nanos
      rw [haverage, Nat.le_div_iff_mul_le hpos, Nat.mul_comm]
      exact le_total _ fun d hd => (hall d hd).1
    · show (ofWaits waits).average.nanos ≤ longest.nanos
      rw [haverage]
      exact Nat.div_le_of_le_mul (total_le _ fun d hd => (hall d hd).2)

/-- Nothing but what is kept matters for what comes of exact sums. -/
theorem ofWaits_eq_of_latest_eq {others : List Duration}
    (hsum : (ofWaits waits).sum.nanos = total (latest waits))
    (hsum' : (ofWaits others).sum.nanos = total (latest others))
    (hlatest : latest others = latest waits) : ofWaits others = ofWaits waits := by
  have hsamples : (ofWaits others).samples = (ofWaits waits).samples := by
    rw [samples_ofWaits, samples_ofWaits, hlatest]
  have hcount : (ofWaits others).count = (ofWaits waits).count := by
    rw [count_ofWaits, count_ofWaits, hlatest]
  have hsums : (ofWaits others).sum = (ofWaits waits).sum := by
    apply Duration.ext
    rw [hsum, hsum', hlatest]
  cases hothers : ofWaits others
  cases hwaits : ofWaits waits
  rw [hothers, hwaits] at hsamples hcount hsums
  cases hsamples
  cases hcount
  cases hsums
  rfl

/-- After each of any number of waiting times just the latest ones are kept, and the sum is
never shared among none.  The sum is exact all the time if and only if waiting times that are
kept together always add up to a duration.  Then the average is exact as well, rounded down to
whole nanoseconds; it lies between the shortest and the longest of those that are kept, and
nothing else matters for it. -/
theorem rolling_average (waits : List Duration) :
    (forall recorded, recorded <+: waits -> Keeps (ofWaits recorded) recorded) ∧
    ((forall recorded, recorded <+: waits ->
        (ofWaits recorded).sum.nanos = total (latest recorded)) <-> Bounded waits) ∧
    (Bounded waits ->
      forall recorded, recorded <+: waits -> recorded ≠ [] ->
        Averages (ofWaits recorded) (latest recorded) ∧
        forall others recorded', Bounded others -> recorded' <+: others ->
          latest recorded' = latest recorded -> ofWaits recorded' = ofWaits recorded) := by
  refine ⟨fun recorded _ => keeps_ofWaits recorded, sum_exact_iff, ?_⟩
  intro hbounded recorded hrecorded hsome
  have hsum := sum_exact_iff.mpr hbounded recorded hrecorded
  refine ⟨averages_of_sum hsome hsum, ?_⟩
  intro others recorded' hothers hrecorded' hlatest
  exact ofWaits_eq_of_latest_eq hsum (sum_exact_iff.mpr hothers recorded' hrecorded') hlatest

/-- A thousand waits of ten milliseconds and one of thirty, which takes the place of the first. -/
theorem rolling_average_of_one_more :
    let waits := List.replicate 1000 (Duration.ofMillis 10) ++ [Duration.ofMillis 30]
    Bounded waits ∧ (ofWaits waits).sum.nanos = 10020000000 ∧
      (ofWaits waits).average = ⟨10020000, by decide⟩ := by
  intro waits
  have hbounded : Bounded waits := by
    apply bounded_of_le
    intro d hd
    rcases List.mem_append.mp hd with hd | hd
    · rw [List.eq_of_mem_replicate hd]
      decide
    · rw [List.mem_singleton.mp hd]
      decide
  have hsome : waits ≠ [] := List.append_ne_nil_of_right_ne_nil _ (List.cons_ne_nil _ _)
  have hkept : latest waits =
      List.replicate 999 (Duration.ofMillis 10) ++ [Duration.ofMillis 30] := by
    have hone : waits.length - capacity = 1 := by
      rw [List.length_append, List.length_replicate]
      rfl
    unfold latest
    rw [hone, List.drop_append_of_le_length (by rw [List.length_replicate]; decide),
      List.drop_replicate]
  have htotal : total (latest waits) = 10020000000 := by
    rw [hkept, total_append, total_singleton]
    unfold total
    rw [List.map_replicate, List.sum_replicate]
    rfl
  have hall := ((rolling_average waits).2.2 hbounded waits (List.prefix_refl _) hsome).1
  refine ⟨hbounded, hall.sum.trans htotal, Duration.ext ?_⟩
  rw [hall.average, htotal, hkept, List.length_append, List.length_replicate]
  rfl

end WaitSamples
end PoolHealth

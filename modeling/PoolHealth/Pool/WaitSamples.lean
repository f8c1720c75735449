import PoolHealth.Time.Duration

/-!
# Waiting times

A window of the latest waiting times with their sum, for a rolling average.  The sum
is kept up to date as samples come and go and is never computed afresh.
-/

namespace PoolHealth

/-- The latest waiting times, oldest first, and their sum. -/
structure WaitSamples where
  samples : List Duration
  count : Nat
  sum : Duration
deriving DecidableEq

namespace WaitSamples

def capacity : Nat := 1000

def empty : WaitSamples := ⟨[], 0, .zero⟩

instance : Inhabited WaitSamples := ⟨empty⟩

/-- The sum shared equally, rounded down to whole nanoseconds; zero without samples. -/
def average (w : WaitSamples) : Duration := if w.count = 0 then .zero else w.sum.share w.count

def makeRoom (w : WaitSamples) : WaitSamples :=
  if w.count = capacity then
    match w.samples with
    | [] => w
    | oldest :: rest => ⟨rest, w.count - 1, w.sum.sub oldest⟩
  else w

def record (w : WaitSamples) (wait : Duration) : WaitSamples :=
  let w := w.makeRoom
  ⟨w.samples ++ [wait], w.count + 1, w.sum.add wait⟩

def isEmpty (w : WaitSamples) : Bool := w.count == 0

/-!
## How many samples there are
-/

/-- The count is the number of samples, and there are not too many. -/
def IsCounted (w : WaitSamples) : Prop := w.count = w.samples.length ∧ w.count ≤ capacity

theorem isCounted_empty : IsCounted empty := ⟨rfl, Nat.zero_le _⟩

theorem IsCounted.makeRoom {w : WaitSamples} (h : w.IsCounted) :
    w.makeRoom.count = w.makeRoom.samples.length ∧ w.makeRoom.count < capacity := by
  rcases h with ⟨hcount, hle⟩
  unfold WaitSamples.makeRoom
  split
  · rename_i hfull
    split
    · rename_i hnil
      rw [hnil, hfull] at hcount
      cases hcount
    · rename_i oldest rest hcons
      rw [hcons, List.length_cons] at hcount
      refine ⟨?_, ?_⟩
      · simp only
        omega
      · simp only
        omega
  · exact ⟨hcount, by omega⟩

theorem IsCounted.record {w : WaitSamples} (h : w.IsCounted) (wait : Duration) :
    (w.record wait).IsCounted := by
  rcases h.makeRoom with ⟨hcount, hlt⟩
  refine ⟨?_, ?_⟩
  · simp only [WaitSamples.record, List.length_append, List.length_singleton, hcount]
  · simp only [WaitSamples.record]
    omega

end WaitSamples
end PoolHealth

import PoolHealth.Proofs.Health.Summary
import PoolHealth.Proofs.Keyed
import PoolHealth.Scenario.Jobs

/-!
# Cycles from beginning to end

A cycle begins with the checks of a service, and each of them comes to an end in its own way and
at its own time.  Its result has one finding for each name that was registered, made from the end
of the last check that was registered under it.  Which check ended first makes no difference, and
the end of one check none to the findings of the others.
-/

namespace PoolHealth

namespace CycleResult

end CycleResult

/-!
## Registration
-/

namespace HealthService

variable {config : HealthConfig} {cs : List HealthCheck} {c : HealthCheck} {name : String}

end HealthService

/-!
## Findings
-/

namespace HealthService

variable {c : HealthCheck} {outcome : CheckOutcome}

end HealthService

open Scenario (TaskEnd outcomeOf)

namespace Cycle

def conclude (limit : Duration) (ends : HealthCheck -> Option TaskEnd) (k : Cycle)
    (e : Nat × Instant) : Cycle :=
  match k.checks[e.1]? with
  | some (c, _) => (k.settle e.1 e.2 (outcomeOf c limit (ends c))).1
  | none => k

def follow (limit : Duration) (ends : HealthCheck -> Option TaskEnd) (k : Cycle)
    (order : List (Nat × Instant)) : Cycle :=
  order.foldl (conclude limit ends) k

variable {limit : Duration} {ends : HealthCheck -> Option TaskEnd} {k : Cycle}

/-- What is known of a check when it is over at that time, if it was not before. -/
def known (limit : Duration) (ends : HealthCheck -> Option TaskEnd) (startedAt now : Instant)
    (e : HealthCheck × Option ComponentHealth) : HealthCheck × Option ComponentHealth :=
  (e.1, some (e.2.getD
    (HealthService.settle e.1 (now.since startedAt) (outcomeOf e.1 limit (ends e.1)))))

theorem startedAt_conclude (k : Cycle) (e : Nat × Instant) :
    (conclude limit ends k e).startedAt = k.startedAt := by
  unfold conclude settle
  split
  · split
    · rfl
    · rfl
  · rfl

theorem getElem?_conclude (k : Cycle) (i j : Nat) (now : Instant) :
    (conclude limit ends k (i, now)).checks[j]?
      = if i = j then (k.checks[j]?).map (known limit ends k.startedAt now) else k.checks[j]? := by
  unfold conclude settle
  cases hcheck : k.checks[i]? with
  | none =>
      by_cases hij : i = j
      · subst hij
        simp only [hcheck, if_true, Option.map_none]
      · simp only [if_neg hij]
  | some e =>
      rcases e with ⟨c, found⟩
      cases found with
      | none =>
          simp only
          by_cases hij : i = j
          · subst hij
            have hlt := (List.getElem?_eq_some_iff.mp hcheck).1
            rw [if_pos rfl, List.getElem?_set_self hlt, hcheck]
            rfl
          · rw [if_neg hij, List.getElem?_set_ne hij]
      | some h =>
          simp only
          by_cases hij : i = j
          · subst hij
            rw [if_pos rfl, hcheck]
            rfl
          · rw [if_neg hij]

theorem startedAt_follow (k : Cycle) (order : List (Nat × Instant)) :
    (k.follow limit ends order).startedAt = k.startedAt := by
  induction order generalizing k with
  | nil =>
      rfl
  | cons e rest ih =>
      exact (ih _).trans (startedAt_conclude k e)

/-- Of each check is known what it came to at the time when it was over. -/
theorem getElem?_follow {order : List (Nat × Instant)}
    (hnodup : (order.map fun e => e.1).Nodup) (k : Cycle) (j : Nat) :
    (k.follow limit ends order).checks[j]?
      = match order.lookup j with
        | some now => (k.checks[j]?).map (known limit ends k.startedAt now)
        | none => k.checks[j]? := by
  induction order generalizing k with
  | nil =>
      rfl
  | cons e rest ih =>
      rcases e with ⟨i, now⟩
      rw [List.map_cons, List.nodup_cons] at hnodup
      have hfollow : (k.follow limit ends ((i, now) :: rest))
          = (conclude limit ends k (i, now)).follow limit ends rest := rfl
      rw [hfollow, ih hnodup.2, startedAt_conclude, getElem?_conclude]
      by_cases hij : i = j
      · subst hij
        rw [Keyed.lookup_eq_none_of_notMem hnodup.1, List.lookup_cons_self, if_pos rfl]
      · rw [if_neg hij, Keyed.lookup_cons_of_ne now rest hij]

end Cycle

/-- When a cycle begins, in which order its checks are over and when, and when its result is put
together. -/
structure Course where
  startedAt : Instant
  /-- The places of the checks with the times at which they are over. -/
  order : List (Nat × Instant)
  now : Instant
  wall : Timestamp
  correlationId : String

namespace Course

def Covers (o : Course) (n : Nat) : Prop := (o.order.map fun e => e.1).Perm (List.range n)

def elapsed (o : Course) (j : Nat) : Duration :=
  ((o.order.lookup j).getD o.startedAt).since o.startedAt

variable {o o' : Course} {n j : Nat}

theorem Covers.nodup (h : o.Covers n) : (o.order.map fun e => e.1).Nodup :=
  h.nodup_iff.mpr List.nodup_range

theorem Covers.exists_lookup (h : o.Covers n) (hj : j < n) :
    exists now, o.order.lookup j = some now ∧ (j, now) ∈ o.order := by
  have hmem : j ∈ o.order.map fun e => e.1 := h.mem_iff.mpr (List.mem_range.mpr hj)
  rcases List.mem_map.mp hmem with ⟨e, he, rfl⟩
  exact ⟨e.2, Keyed.lookup_eq_some_of_mem h.nodup he, he⟩

end Course

namespace HealthService

variable {s : HealthService} {ends ends' : HealthCheck -> Option TaskEnd} {o o' : Course}

def runThrough (s : HealthService) (ends : HealthCheck -> Option TaskEnd) (o : Course) : Cycle :=
  (Cycle.start s o.startedAt).follow s.config.checkTimeout ends o.order

def perform (s : HealthService) (ends : HealthCheck -> Option TaskEnd) (o : Course) : CycleResult :=
  (s.runThrough ends o).result s.config o.now o.wall o.correlationId

def finding (s : HealthService) (ends : HealthCheck -> Option TaskEnd) (o : Course)
    (e : HealthCheck × Nat) : ComponentHealth :=
  settle e.1 (o.elapsed e.2) (outcomeOf e.1 s.config.checkTimeout (ends e.1))

theorem checks_runThrough (ends : HealthCheck -> Option TaskEnd) (h : o.Covers s.checks.length) :
    (s.runThrough ends o).checks
      = s.checks.zipIdx.map fun e => (e.1, some (s.finding ends o e)) := by
  apply List.ext_getElem?
  intro j
  have hstart : (Cycle.start s o.startedAt).checks[j]? = (s.checks[j]?).map fun c => (c, none) := by
    unfold Cycle.start
    rw [List.getElem?_map]
  unfold runThrough
  rw [Cycle.getElem?_follow h.nodup, hstart, List.getElem?_map, List.getElem?_zipIdx]
  cases hcheck : s.checks[j]? with
  | none =>
      cases o.order.lookup j with
      | none | some now =>
          rfl
  | some c =>
      rcases h.exists_lookup (List.getElem?_eq_some_iff.mp hcheck).1 with ⟨now, hlookup, _⟩
      simp only [hlookup, Option.map_some, Nat.zero_add, finding, Course.elapsed, Option.getD_some]
      rfl

theorem perform_eq (ends : HealthCheck -> Option TaskEnd) (h : o.Covers s.checks.length) :
    s.perform ends o = .ofComponents o.wall o.correlationId s.config.alertsEnabled
      (o.now.since o.startedAt) (s.checks.zipIdx.map (s.finding ends o)) := by
  unfold perform Cycle.result
  rw [checks_runThrough ends h, List.filterMap_map]
  have hstart : (s.runThrough ends o).startedAt = o.startedAt := Cycle.startedAt_follow _ _
  have hsome : ((fun e : HealthCheck × Option ComponentHealth => e.2)
      ∘ fun e => (e.1, some (s.finding ends o e))) = some ∘ s.finding ends o := rfl
  rw [hstart, hsome, List.filterMap_eq_map]

end HealthService
end PoolHealth

import PoolHealth.Proofs.Health.Cycles
import PoolHealth.Proofs.Trace

/-!
# A watch over components

Cycles and recoveries of one service meet each other.  Each of them sends out tasks that run
checks, and waits for them; a cycle waits for all of its tasks, and only then is written down what
any of them has found.  As with pools, any action may follow any other: a task may end in any way
and as late as it likes, and so may a call look after its tasks.

The watch keeps in mind when the tasks ended, and from which of them comes what is written.
-/

namespace PoolHealth

open Scenario (TaskEnd outcomeOf)

/-- A task that runs a check. -/
structure CheckTask where
  check : HealthCheck
  ended : Option TaskEnd := none

inductive HealthCall where
  /-- The tasks of the cycle have numbers one after the other. -/
  | cycle (k : Cycle) (first : Nat)
  | performed (r : CycleResult)
  | recovery (c : HealthCheck) (since : Instant) (task : Nat)
  | recovered (r : Except CheckError ComponentHealth)
  /-- It was dropped, or it broke down. -/
  | abandoned

inductive CacheEvent where
  | ended (task : Nat)
  | wrote (name : String) (task : Nat)
deriving DecidableEq

structure Moment where
  now : Instant
  wall : Timestamp
  correlationId : String

/-- A service with the calls that take time. -/
structure Watch where
  service : HealthService
  tasks : List CheckTask := []
  calls : List HealthCall := []
  events : List CacheEvent := []

inductive WatchAction where
  | register (c : HealthCheck)
  /-- A cycle begins, for somebody or for a monitoring loop. -/
  | perform (m : Moment)
  | recover (name : String) (now : Instant)
  | ended (task : Nat) (e : TaskEnd)
  /-- A call looks after its tasks, and goes on if it can. -/
  | look (i : Nat) (m : Moment)
  | abandon (i : Nat)
  | cleanup (wall : Timestamp)

/-!
## What a cycle writes
-/

namespace Cycle

def found (k : Cycle) (first : Nat) : List (ComponentHealth × Nat) :=
  (k.checks.zipIdx first).filterMap fun e => e.1.2.map fun h => (h, e.2)

/-- What a cycle has found under each name.  Of findings with the same name the last one counts. -/
def sources (k : Cycle) (first : Nat) : List (String × ComponentHealth × Nat) :=
  Keyed.collect (fun e => e.1.name) (k.found first)

variable {k : Cycle} {first : Nat}

theorem mem_found {h : ComponentHealth} {t : Nat} (hmem : (h, t) ∈ k.found first) :
    exists (j : Nat) (c : HealthCheck), t = first + j ∧ k.checks[j]? = some (c, some h) := by
  rcases List.mem_filterMap.mp hmem with ⟨⟨⟨c, found⟩, place⟩, hplace, hfound⟩
  rcases Option.map_eq_some_iff.mp hfound with ⟨_, rfl, heq⟩
  cases heq
  rcases List.mk_mem_zipIdx_iff_le_and_getElem?_sub.mp hplace with ⟨hle, hcheck⟩
  exact ⟨place - first, c, (Nat.add_sub_of_le hle).symm, hcheck⟩

theorem mem_sources {name : String} {h : ComponentHealth} {t : Nat}
    (hmem : (name, h, t) ∈ k.sources first) :
    h.name = name ∧
      exists (j : Nat) (c : HealthCheck), t = first + j ∧ k.checks[j]? = some (c, some h) := by
  rcases Keyed.mem_collect hmem with ⟨hname, hfound⟩
  exact ⟨hname, mem_found hfound⟩

theorem map_fst_found (k : Cycle) (first : Nat) :
    (k.found first).map (fun e => e.1) = k.checks.filterMap fun e => e.2 := by
  unfold found
  rw [List.map_filterMap]
  calc (k.checks.zipIdx first).filterMap
        (fun e => (e.1.2.map fun h => (h, e.2)).map fun e => e.1)
      = (k.checks.zipIdx first).filterMap ((fun e => e.2) ∘ fun e => e.1) := by
        apply List.filterMap_congr
        intro e _
        rcases e with ⟨⟨c, found⟩, t⟩
        cases found with
        | none | some h =>
            rfl
    _ = ((k.checks.zipIdx first).map fun e => e.1).filterMap fun e => e.2 := by
        rw [List.filterMap_map]
    _ = k.checks.filterMap fun e => e.2 := by
        rw [List.zipIdx_map_fst]

theorem components_result (k : Cycle) (first : Nat) (config : HealthConfig) (now : Instant)
    (wall : Timestamp) (correlationId : String) :
    (k.result config now wall correlationId).components
      = (k.sources first).map fun e => (e.1, e.2.1) := by
  have hcollect := Keyed.map_collect ComponentHealth.name (fun e => e.1) (k.found first)
  rw [map_fst_found] at hcollect
  exact hcollect.symm

end Cycle

namespace HealthService

variable {s : HealthService}

theorem component?_foldl_note {components : List (String × ComponentHealth)}
    (hnodup : (components.map fun e => e.1).Nodup)
    (hnames : forall e, e ∈ components -> e.2.name = e.1) (s : HealthService) (name : String) :
    (components.foldl (fun s e => s.note e.2) s).component? name
      = (components.lookup name).or (s.component? name) := by
  induction components generalizing s with
  | nil =>
      rfl
  | cons e rest ih =>
      rcases e with ⟨key, h⟩
      rw [List.map_cons, List.nodup_cons] at hnodup
      have hkey : h.name = key := hnames _ List.mem_cons_self
      have hrest := ih hnodup.2 (fun e he => hnames e (List.mem_cons_of_mem _ he)) (s.note h)
      rw [List.foldl_cons, hrest]
      by_cases hname : key = name
      · subst hname
        rw [Keyed.lookup_eq_none_of_notMem hnodup.1, List.lookup_cons_self]
        subst hkey
        exact component?_note_self s h
      · rw [Keyed.lookup_cons_of_ne h rest hname,
          component?_note_of_ne s (hkey.trans_ne hname)]

theorem component?_publish {r : CycleResult} (hnodup : (r.components.map fun e => e.1).Nodup)
    (hnames : forall e, e ∈ r.components -> e.2.name = e.1) (s : HealthService) (name : String) :
    (s.publish r).component? name = (r.components.lookup name).or (s.component? name) :=
  component?_foldl_note hnodup hnames s name

theorem config_publish (s : HealthService) (r : CycleResult) :
    (s.publish r).config = s.config := by
  have hnotes : forall components : List (String × ComponentHealth),
      forall s : HealthService, (components.foldl (fun s e => s.note e.2) s).config = s.config := by
    intro components
    induction components with
    | nil =>
        intro s
        rfl
    | cons e rest ih =>
        intro s
        exact ih _
  exact hnotes r.components s

end HealthService

/-!
## One action
-/

namespace Watch

def ofConfig (c : HealthConfig) : Watch where
  service := .ofConfig c

def put (w : Watch) (i : Nat) (k : HealthCall) : Watch :=
  { w with calls := w.calls.take i ++ k :: w.calls.drop (i + 1) }

def sendOut (w : Watch) (cs : List HealthCheck) : Watch :=
  { w with tasks := w.tasks ++ cs.map fun c => { check := c } }

def answer? (w : Watch) (t : Nat) : Option CheckOutcome :=
  match w.tasks[t]? with
  | some ⟨c, some e⟩ => some (outcomeOf c w.service.config.checkTimeout (some e))
  | _ => none

def settleAt (w : Watch) (first : Nat) (now : Instant) (k : Cycle) (j : Nat) : Cycle :=
  match w.answer? (first + j) with
  | some outcome => (k.settle j now outcome).1
  | none => k

def settleAll (w : Watch) (first : Nat) (now : Instant) (k : Cycle) : Cycle :=
  (List.range k.checks.length).foldl (w.settleAt first now) k

def write (w : Watch) (s : HealthService) (found : List (String × ComponentHealth × Nat)) : Watch :=
  { w with service := s, events := w.events ++ found.map fun e => .wrote e.1 e.2.2 }

def publish (w : Watch) (i : Nat) (k : Cycle) (first : Nat) (m : Moment) : Watch :=
  let r := k.result w.service.config m.now m.wall m.correlationId
  (w.write (w.service.publish r) (k.sources first)).put i (.performed r)

def goOn (w : Watch) (i : Nat) (k : Cycle) (first : Nat) (m : Moment) : Watch :=
  if k.isComplete then w.publish i k first m else w.put i (.cycle k first)

def note (w : Watch) (i : Nat) (h : ComponentHealth) (t : Nat) : Watch :=
  (w.write (w.service.note h) [(h.name, h, t)]).put i (.recovered (.ok h))

def step (w : Watch) : WatchAction -> Option Watch
  | .register c => some { w with service := w.service.register c }
  | .perform m =>
      some ((w.sendOut w.service.checks).goOn w.calls.length (.start w.service m.now)
        w.tasks.length m)
  | .recover name now =>
      match w.service.check? name with
      | some c => some ((w.sendOut [c]).put w.calls.length (.recovery c now w.tasks.length))
      | none => some (w.put w.calls.length (.recovered (.error (.unknownComponent name))))
  | .ended t e =>
      match w.tasks[t]? with
      | some ⟨c, none⟩ =>
          some { w with tasks := w.tasks.set t ⟨c, some e⟩, events := w.events ++ [.ended t] }
      | _ => none
  | .look i m =>
      match w.calls[i]? with
      | some (.cycle k first) => some (w.goOn i (w.settleAll first m.now k) first m)
      | some (.recovery c since t) =>
          (w.answer? t).map fun outcome =>
            w.note i (HealthService.settle c (m.now.since since) outcome) t
      | _ => none
  | .abandon i =>
      match w.calls[i]? with
      | some (.cycle _ _) | some (.recovery _ _ _) => some (w.put i .abandoned)
      | _ => none
  | .cleanup wall => (w.service.cleanup? wall).map fun s => { w with service := s }

inductive Move (w : Watch) : Watch -> Prop where
  | served {s : HealthService} (hconfig : s.config = w.service.config)
      (hfindings : s.findings = w.service.findings) : Move w { w with service := s }
  | performing (m : Moment) :
      Move w ((w.sendOut w.service.checks).goOn w.calls.length (.start w.service m.now)
        w.tasks.length m)
  | recovering (c : HealthCheck) (now : Instant) :
      Move w ((w.sendOut [c]).put w.calls.length (.recovery c now w.tasks.length))
  | unknown (name : String) :
      Move w (w.put w.calls.length (.recovered (.error (.unknownComponent name))))
  | ended {t : Nat} {c : HealthCheck} (htask : w.tasks[t]? = some ⟨c, none⟩) (e : TaskEnd) :
      Move w { w with tasks := w.tasks.set t ⟨c, some e⟩, events := w.events ++ [.ended t] }
  | looked {i first : Nat} {k : Cycle} (hcall : .cycle k first ∈ w.calls) (m : Moment) :
      Move w (w.goOn i (w.settleAll first m.now k) first m)
  | noted {i t : Nat} {c : HealthCheck} {since : Instant} {outcome : CheckOutcome}
      (hcall : .recovery c since t ∈ w.calls) (hanswer : w.answer? t = some outcome)
      (elapsed : Duration) : Move w (w.note i (HealthService.settle c elapsed outcome) t)
  | abandoned (i : Nat) : Move w (w.put i .abandoned)

theorem move_of_step {w w' : Watch} {a : WatchAction} (hstep : w.step a = some w') :
    w.Move w' := by
  cases a with
  | register c =>
      cases hstep
      exact Move.served rfl rfl
  | perform m =>
      cases hstep
      exact Move.performing m
  | recover name now =>
      unfold step at hstep
      simp only at hstep
      split at hstep
      · rename_i c _
        cases hstep
        exact Move.recovering c now
      · cases hstep
        exact Move.unknown name
  | ended t e =>
      unfold step at hstep
      simp only at hstep
      split at hstep
      · rename_i c htask
        cases hstep
        exact Move.ended htask e
      · cases hstep
  | look i m =>
      unfold step at hstep
      simp only at hstep
      split at hstep
      · rename_i k first hcall
        cases hstep
        exact Move.looked (List.mem_of_getElem? hcall) m
      · rename_i c since t hcall
        rcases Option.map_eq_some_iff.mp hstep with ⟨outcome, hanswer, rfl⟩
        exact Move.noted (List.mem_of_getElem? hcall) hanswer _
      · cases hstep
  | abandon i =>
      unfold step at hstep
      simp only at hstep
      split at hstep
      · cases hstep
        exact Move.abandoned i
      · cases hstep
        exact Move.abandoned i
      · cases hstep
  | cleanup wall =>
      rcases Option.map_eq_some_iff.mp hstep with ⟨s, hs, rfl⟩
      rcases Option.map_eq_some_iff.mp hs with ⟨_, _, rfl⟩
      exact Move.served rfl rfl

/-!
## Runs
-/

abbrev Log := List (Watch × WatchAction)

abbrev Run : Watch -> Log -> Watch -> Prop := Trace Watch.step

end Watch
end PoolHealth

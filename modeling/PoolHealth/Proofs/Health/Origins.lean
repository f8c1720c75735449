import PoolHealth.Proofs.Health.Watch

/-!
# Where findings come from

Whatever happens to a service: what it says of a component is what the task has found from which
something was written last under the name of the component.  A task is over before it is heard of,
and then it stays what it is.
-/

namespace PoolHealth

open Scenario (TaskEnd)

namespace CacheEvent

variable {name : String} {t : Nat} {es later : List CacheEvent}

def task : CacheEvent -> Nat
  | ended t | wrote _ t => t

def writes? (name : String) : CacheEvent -> Option Nat
  | ended _ => none
  | wrote n t => if n = name then some t else none

def source? (name : String) : List CacheEvent -> Option Nat
  | [] => none
  | e :: rest => (source? name rest).or (e.writes? name)

theorem writes?_eq_some_iff {e : CacheEvent} : e.writes? name = some t <-> e = wrote name t := by
  cases e with
  | ended u =>
      simp [writes?]
  | wrote n u =>
      simp [writes?]

theorem source?_append (name : String) (es later : List CacheEvent) :
    source? name (es ++ later) = (source? name later).or (source? name es) := by
  induction es with
  | nil =>
      exact Option.or_none.symm
  | cons e rest ih =>
      rw [List.cons_append, source?, source?, ih, Option.or_assoc]

theorem source?_ne_none (h : wrote name t ∈ es) : source? name es ≠ none := by
  induction es with
  | nil =>
      cases h
  | cons e rest ih =>
      rw [source?, ne_eq, Option.or_eq_none_iff, not_and_or]
      rcases List.mem_cons.mp h with rfl | hrest
      · rw [writes?_eq_some_iff.mpr rfl]
        exact Or.inr (Option.some_ne_none t)
      · exact Or.inl (ih hrest)

theorem split_of_source? (h : source? name es = some t) :
    exists before after, es = before ++ wrote name t :: after ∧
      forall u, wrote name u ∉ after := by
  induction es with
  | nil =>
      cases h
  | cons e rest ih =>
      rw [source?, Option.or_eq_some_iff] at h
      rcases h with hrest | ⟨hnone, hwrites⟩
      · rcases ih hrest with ⟨before, after, rfl, hafter⟩
        exact ⟨e :: before, after, rfl, hafter⟩
      · rw [writes?_eq_some_iff.mp hwrites]
        exact ⟨[], rest, rfl, fun u hu => source?_ne_none hu hnone⟩

theorem source?_wrote {α : Type} {found : List (String × α × Nat)}
    (hnodup : (found.map fun e => e.1).Nodup) (name : String) :
    source? name (found.map fun e => wrote e.1 e.2.2)
      = (found.lookup name).map fun e => e.2 := by
  induction found with
  | nil =>
      rfl
  | cons e rest ih =>
      rcases e with ⟨key, value, t⟩
      rw [List.map_cons, List.nodup_cons] at hnodup
      rw [List.map_cons, source?, ih hnodup.2]
      by_cases hname : key = name
      · subst hname
        rw [Keyed.lookup_eq_none_of_notMem hnodup.1, List.lookup_cons_self]
        exact writes?_eq_some_iff.mpr rfl
      · rw [Keyed.lookup_cons_of_ne _ rest hname, writes?, if_neg hname, Option.or_none]

end CacheEvent

namespace Watch

variable {config : HealthConfig} {w w' : Watch} {log : Log}

def Runs (w : Watch) (t : Nat) (c : HealthCheck) : Prop :=
  exists ended, w.tasks[t]? = some ⟨c, ended⟩

/-- The finding comes from the task, which was looked at after some time. -/
def Yields (w : Watch) (t : Nat) (h : ComponentHealth) : Prop :=
  exists c outcome elapsed, w.Runs t c ∧ w.answer? t = some outcome ∧
    h = HealthService.settle c elapsed outcome

/-- What is known of a check of a cycle comes from its task. -/
def Backs (w : Watch) (t : Nat) (e : HealthCheck × Option ComponentHealth) : Prop :=
  w.Runs t e.1 ∧ forall h, e.2 = some h -> w.Yields t h

def BacksCycle (w : Watch) (first : Nat) (k : Cycle) : Prop :=
  forall j e, k.checks[j]? = some e -> w.Backs (first + j) e

def BacksCall (w : Watch) : HealthCall -> Prop
  | .cycle k first => w.BacksCycle first k
  | .recovery c _ t => w.Runs t c
  | .performed _ | .recovered _ | .abandoned => True

/-- What is written down at any time. -/
structure Sound (w : Watch) : Prop where
  ended_iff : forall t, .ended t ∈ w.events <-> (w.answer? t).isSome = true
  /-- Nothing is heard of a task before it is over, and it is over once. -/
  ordered : w.events.Pairwise fun e later => later ≠ .ended e.task
  heard : forall e, e ∈ w.events -> .ended e.task ∈ w.events
  backed : forall k, k ∈ w.calls -> w.BacksCall k
  /-- Nothing is said of a component of which nothing was written. -/
  empty : forall name, CacheEvent.source? name w.events = none -> w.service.component? name = none
  sourced : forall name t, CacheEvent.source? name w.events = some t ->
    exists h, w.service.component? name = some h ∧ h.name = name ∧ w.Yields t h

/-!
## Tasks stay what they are
-/

structure Keeps (w w' : Watch) : Prop where
  runs : forall {t c}, w.Runs t c -> w'.Runs t c
  answers : forall {t outcome}, w.answer? t = some outcome -> w'.answer? t = some outcome

namespace Keeps

variable {t : Nat}

theorem yields {h : ComponentHealth} (hkeeps : Keeps w w') (hyields : w.Yields t h) :
    w'.Yields t h := by
  rcases hyields with ⟨c, outcome, elapsed, hruns, hanswer, heq⟩
  exact ⟨c, outcome, elapsed, hkeeps.runs hruns, hkeeps.answers hanswer, heq⟩

theorem backs {e : HealthCheck × Option ComponentHealth} (hkeeps : Keeps w w')
    (hbacks : w.Backs t e) : w'.Backs t e :=
  ⟨hkeeps.runs hbacks.1, fun h hfound => hkeeps.yields (hbacks.2 h hfound)⟩

theorem backsCall {k : HealthCall} (hkeeps : Keeps w w') (hbacks : w.BacksCall k) :
    w'.BacksCall k := by
  cases k with
  | cycle k first =>
      intro j e he
      exact hkeeps.backs (hbacks j e he)
  | recovery c since t =>
      exact hkeeps.runs hbacks
  | performed r | recovered r | abandoned =>
      trivial

end Keeps

theorem answer?_isSome_iff {t : Nat} :
    (w.answer? t).isSome = true <-> exists c e, w.tasks[t]? = some ⟨c, some e⟩ := by
  unfold answer?
  split
  · rename_i c e htask
    rw [htask]
    exact iff_of_true rfl ⟨c, e, rfl⟩
  · rename_i hnot
    constructor
    · intro h
      cases h
    · intro h
      rcases h with ⟨c, e, htask⟩
      exact absurd htask (hnot c e)

theorem answer?_congr (htasks : w'.tasks = w.tasks) (hconfig : w'.service.config = w.service.config)
    (t : Nat) : w'.answer? t = w.answer? t := by
  unfold answer?
  rw [htasks, hconfig]

theorem keeps_of_tasks (htasks : w'.tasks = w.tasks)
    (hconfig : w'.service.config = w.service.config) : Keeps w w' := by
  constructor
  · intro t c hruns
    unfold Runs at hruns ⊢
    rw [htasks]
    exact hruns
  · intro t outcome hanswer
    rw [answer?_congr htasks hconfig]
    exact hanswer

theorem keeps_sendOut (w : Watch) (cs : List HealthCheck) : Keeps w (w.sendOut cs) := by
  have htasks : forall {t : Nat} {x : CheckTask}, w.tasks[t]? = some x ->
      (w.sendOut cs).tasks[t]? = some x := by
    intro t x htask
    exact (List.getElem?_append_left (List.getElem?_eq_some_iff.mp htask).1).trans htask
  constructor
  · intro t c hruns
    rcases hruns with ⟨ended, htask⟩
    exact ⟨ended, htasks htask⟩
  · intro t outcome hanswer
    unfold answer? at hanswer ⊢
    split at hanswer
    · rename_i c e htask
      rw [htasks htask]
      exact hanswer
    · cases hanswer

theorem runs_sendOut (w : Watch) {cs : List HealthCheck} {j : Nat} {c : HealthCheck}
    (h : cs[j]? = some c) : (w.sendOut cs).Runs (w.tasks.length + j) c := by
  refine ⟨none, ?_⟩
  unfold sendOut
  rw [List.getElem?_append_right (Nat.le_add_right _ _), Nat.add_sub_cancel_left, List.getElem?_map,
    h]
  rfl

theorem keeps_ended {t : Nat} {c : HealthCheck} (htask : w.tasks[t]? = some ⟨c, none⟩)
    (e : TaskEnd) (events : List CacheEvent) :
    Keeps w { w with tasks := w.tasks.set t ⟨c, some e⟩, events := events } := by
  have hlt := (List.getElem?_eq_some_iff.mp htask).1
  constructor
  · intro u d hruns
    rcases hruns with ⟨ended, hother⟩
    by_cases htu : t = u
    · subst htu
      rw [htask] at hother
      cases hother
      exact ⟨some e, List.getElem?_set_self hlt⟩
    · exact ⟨ended, (List.getElem?_set_ne htu).trans hother⟩
  · intro u outcome hanswer
    unfold answer? at hanswer ⊢
    have htu : t ≠ u := by
      intro heq
      subst heq
      rw [htask] at hanswer
      cases hanswer
    simp only [List.getElem?_set_ne htu]
    exact hanswer

/-!
## One action at a time
-/

theorem Sound.ofConfig (c : HealthConfig) : (ofConfig c).Sound := by
  constructor
  · intro t
    exact iff_of_false List.not_mem_nil Bool.false_ne_true
  · exact List.Pairwise.nil
  · intro e he
    cases he
  · intro k hk
    cases hk
  · intro name _
    rfl
  · intro name t hsource
    cases hsource

theorem Sound.of_same (h : w.Sound) (htasks : w'.tasks = w.tasks) (hevents : w'.events = w.events)
    (hconfig : w'.service.config = w.service.config)
    (hfindings : w'.service.findings = w.service.findings)
    (hcalls : forall k, k ∈ w'.calls -> w.BacksCall k) : w'.Sound := by
  have hkeeps := keeps_of_tasks htasks hconfig
  constructor
  · intro t
    rw [hevents, answer?_congr htasks hconfig]
    exact h.ended_iff t
  · rw [hevents]
    exact h.ordered
  · rw [hevents]
    exact h.heard
  · intro k hk
    exact hkeeps.backsCall (hcalls k hk)
  · intro name hsource
    rw [hevents] at hsource
    unfold HealthService.component?
    rw [hfindings]
    exact h.empty name hsource
  · intro name t hsource
    rw [hevents] at hsource
    rcases h.sourced name t hsource with ⟨found, hfound, hname, hyields⟩
    unfold HealthService.component? at hfound ⊢
    rw [hfindings]
    exact ⟨found, hfound, hname, hkeeps.yields hyields⟩

theorem Sound.put {k : HealthCall} (h : w.Sound) (i : Nat) (hk : w.BacksCall k) :
    (w.put i k).Sound := by
  have htasks : (w.put i k).tasks = w.tasks := rfl
  apply h.of_same htasks rfl rfl rfl
  intro k' hk'
  rcases List.mem_append.mp hk' with hbefore | hfrom
  · exact h.backed k' (List.mem_of_mem_take hbefore)
  · rcases List.mem_cons.mp hfrom with rfl | hafter
    · exact hk
    · exact h.backed k' (List.mem_of_mem_drop hafter)

theorem Sound.sendOut (h : w.Sound) (cs : List HealthCheck) : (w.sendOut cs).Sound := by
  have hkeeps := keeps_sendOut w cs
  constructor
  · intro t
    rw [show (w.sendOut cs).events = w.events from rfl, h.ended_iff t]
    constructor
    · intro hsome
      rcases Option.isSome_iff_exists.mp hsome with ⟨outcome, hanswer⟩
      rw [hkeeps.answers hanswer]
      rfl
    · intro hsome
      rcases answer?_isSome_iff.mp hsome with ⟨c, e, htask⟩
      rw [answer?_isSome_iff]
      refine ⟨c, e, ?_⟩
      unfold Watch.sendOut at htask
      rw [List.getElem?_append] at htask
      split at htask
      · exact htask
      · rw [List.getElem?_map] at htask
        rcases Option.map_eq_some_iff.mp htask with ⟨d, _, hd⟩
        cases hd
  · exact h.ordered
  · exact h.heard
  · intro k hk
    exact hkeeps.backsCall (h.backed k hk)
  · exact h.empty
  · intro name t hsource
    rcases h.sourced name t hsource with ⟨found, hfound, hname, hyields⟩
    exact ⟨found, hfound, hname, hkeeps.yields hyields⟩

theorem Sound.ended {t : Nat} {c : HealthCheck} (h : w.Sound)
    (htask : w.tasks[t]? = some ⟨c, none⟩) (e : TaskEnd) :
    Sound { w with tasks := w.tasks.set t ⟨c, some e⟩, events := w.events ++ [.ended t] } := by
  have hkeeps := keeps_ended htask e (w.events ++ [.ended t])
  have hlt := (List.getElem?_eq_some_iff.mp htask).1
  have hopen : CacheEvent.ended t ∉ w.events := by
    rw [h.ended_iff, answer?_isSome_iff, htask]
    rintro ⟨_, _, heq⟩
    cases heq
  have hsame : forall name, CacheEvent.source? name (w.events ++ [.ended t])
      = CacheEvent.source? name w.events := fun name => CacheEvent.source?_append name _ _
  constructor
  · intro u
    rw [List.mem_append, List.mem_singleton, h.ended_iff, answer?_isSome_iff, answer?_isSome_iff]
    by_cases htu : t = u
    · subst htu
      exact iff_of_true (Or.inr rfl) ⟨c, e, List.getElem?_set_self hlt⟩
    · simp only [List.getElem?_set_ne htu]
      constructor
      · intro hor
        rcases hor with hold | heq
        · exact hold
        · exact absurd (CacheEvent.ended.inj heq).symm htu
      · exact Or.inl
  · rw [List.pairwise_append]
    refine ⟨h.ordered, List.pairwise_singleton _ _, ?_⟩
    intro e' he' later hlater heq
    rw [List.mem_singleton.mp hlater] at heq
    apply hopen
    rw [heq]
    exact h.heard e' he'
  · intro e' he'
    rcases List.mem_append.mp he' with hold | hnew
    · exact List.mem_append_left _ (h.heard e' hold)
    · rw [List.mem_singleton.mp hnew]
      exact List.mem_append_right _ (List.mem_singleton_self _)
  · intro k hk
    exact hkeeps.backsCall (h.backed k hk)
  · intro name hsource
    rw [hsame] at hsource
    exact h.empty name hsource
  · intro name u hsource
    rw [hsame] at hsource
    rcases h.sourced name u hsource with ⟨found, hfound, hname, hyields⟩
    exact ⟨found, hfound, hname, hkeeps.yields hyields⟩

/-- What is said of a component is what it was, or it has just been written. -/
theorem write_cases {s : HealthService} {found : List (String × ComponentHealth × Nat)}
    (hnodup : (found.map fun e => e.1).Nodup)
    (hcache : forall name, s.component? name
      = ((found.lookup name).map fun e => e.1).or (w.service.component? name)) (name : String) :
    (CacheEvent.source? name (w.write s found).events = CacheEvent.source? name w.events ∧
        s.component? name = w.service.component? name) ∨
      exists e, (name, e) ∈ found ∧
        CacheEvent.source? name (w.write s found).events = some e.2 ∧
        s.component? name = some e.1 := by
  have hsource : CacheEvent.source? name (w.write s found).events
      = ((found.lookup name).map fun e => e.2).or (CacheEvent.source? name w.events) :=
    (CacheEvent.source?_append name _ _).trans (by rw [CacheEvent.source?_wrote hnodup])
  rw [hsource, hcache]
  cases hlookup : found.lookup name with
  | none =>
      exact Or.inl ⟨rfl, rfl⟩
  | some e =>
      exact Or.inr ⟨e, Keyed.mem_of_lookup hlookup, rfl, rfl⟩

/-- The service has been told findings that come from tasks. -/
theorem Sound.write {s : HealthService} {found : List (String × ComponentHealth × Nat)}
    (h : w.Sound) (hnodup : (found.map fun e => e.1).Nodup)
    (hfound : forall e, e ∈ found -> e.2.1.name = e.1 ∧ w.Yields e.2.2 e.2.1)
    (hconfig : s.config = w.service.config)
    (hcache : forall name, s.component? name
      = ((found.lookup name).map fun e => e.1).or (w.service.component? name)) :
    (w.write s found).Sound := by
  have htasks : (w.write s found).tasks = w.tasks := rfl
  have hkeeps : Keeps w (w.write s found) := keeps_of_tasks htasks hconfig
  have hended : forall e, e ∈ found -> CacheEvent.ended e.2.2 ∈ w.events := by
    intro e he
    rcases (hfound e he).2 with ⟨c, outcome, elapsed, _, hanswer, _⟩
    rw [h.ended_iff, hanswer]
    rfl
  have hwrote : forall t later, later ∈ found.map (fun e => CacheEvent.wrote e.1 e.2.2) ->
      later ≠ CacheEvent.ended t := by
    intro t later hlater heq
    rcases List.mem_map.mp hlater with ⟨_, _, rfl⟩
    cases heq
  constructor
  · intro t
    rw [answer?_congr htasks hconfig, ← h.ended_iff t]
    constructor
    · intro hmem
      rcases List.mem_append.mp hmem with hold | hnew
      · exact hold
      · exact absurd rfl (hwrote t _ hnew)
    · exact List.mem_append_left _
  · refine List.pairwise_append.mpr ⟨h.ordered, ?_, fun e _ later => hwrote e.task later⟩
    exact List.pairwise_of_forall_mem_list fun e _ later hlater => hwrote e.task later hlater
  · intro e he
    rcases List.mem_append.mp he with hold | hnew
    · exact List.mem_append_left _ (h.heard e hold)
    · rcases List.mem_map.mp hnew with ⟨f, hf, rfl⟩
      exact List.mem_append_left _ (hended f hf)
  · intro k hk
    exact hkeeps.backsCall (h.backed k hk)
  · intro name hnone
    rcases write_cases hnodup hcache name with ⟨hsource, hsame⟩ | ⟨e, _, hsource, _⟩
    · exact hsame.trans (h.empty name (hsource ▸ hnone))
    · rw [hsource] at hnone
      cases hnone
  · intro name t hsome
    rcases write_cases hnodup hcache name with ⟨hsource, hsame⟩ | ⟨e, hmem, hsource, hsaid⟩
    · rcases h.sourced name t (hsource ▸ hsome) with ⟨found, hfound, hname, hyields⟩
      exact ⟨found, hsame.trans hfound, hname, hkeeps.yields hyields⟩
    · rw [hsource] at hsome
      cases hsome
      rcases hfound _ hmem with ⟨hname, hyields⟩
      exact ⟨e.1, hsaid, hname, hkeeps.yields hyields⟩

/-!
## Cycles
-/

theorem backsCycle_start (w : Watch) (now : Instant) :
    (w.sendOut w.service.checks).BacksCycle w.tasks.length (.start w.service now) := by
  intro j e he
  unfold Cycle.start at he
  rw [List.getElem?_map] at he
  rcases Option.map_eq_some_iff.mp he with ⟨c, hc, rfl⟩
  constructor
  · exact runs_sendOut w hc
  · intro h hfound
    cases hfound

theorem BacksCycle.settleAt {first : Nat} {k : Cycle} (h : w.BacksCycle first k) (now : Instant)
    (j : Nat) : w.BacksCycle first (w.settleAt first now k j) := by
  unfold Watch.settleAt
  split
  · rename_i outcome hanswer
    unfold Cycle.settle
    split
    · rename_i c hopen
      intro i e he
      rw [List.getElem?_set] at he
      split at he
      · rename_i hij
        subst hij
        split at he
        · cases he
          have hruns : w.Runs (first + j) c := (h j _ hopen).1
          constructor
          · exact hruns
          · intro found hfound
            cases hfound
            exact ⟨c, outcome, now.since k.startedAt, hruns, hanswer, rfl⟩
        · cases he
      · exact h i e he
    · exact h
  · exact h

theorem BacksCycle.settleAll {first : Nat} {k : Cycle} (h : w.BacksCycle first k)
    (now : Instant) : w.BacksCycle first (w.settleAll first now k) := by
  unfold Watch.settleAll
  induction List.range k.checks.length using List.reverseRecOn with
  | nil =>
      exact h
  | append_singleton places j ih =>
      rw [List.foldl_concat]
      exact ih.settleAt now j

theorem Sound.publish {k : Cycle} {first : Nat} (h : w.Sound) (hk : w.BacksCycle first k) (i : Nat)
    (m : Moment) : (w.publish i k first m).Sound := by
  have hcomponents := k.components_result first w.service.config m.now m.wall m.correlationId
  have hnodup : ((k.sources first).map fun e => e.1).Nodup := Keyed.nodup_collect _ _
  have hfound : forall e, e ∈ k.sources first -> e.2.1.name = e.1 ∧ w.Yields e.2.2 e.2.1 := by
    intro e he
    rcases Cycle.mem_sources he with ⟨hname, j, c, hplace, hcheck⟩
    rw [hplace]
    exact ⟨hname, (hk j _ hcheck).2 _ rfl⟩
  have hlookup : forall name, ((k.sources first).map fun e => (e.1, e.2.1)).lookup name
      = ((k.sources first).lookup name).map fun e => e.1 := by
    intro name
    exact Keyed.lookup_map (fun e => e.1) (k.sources first) name
  apply Sound.put
  · apply h.write hnodup hfound (HealthService.config_publish _ _)
    intro name
    rw [HealthService.component?_publish, hcomponents, hlookup]
    · rw [hcomponents, List.map_map]
      exact hnodup
    · intro e he
      rw [hcomponents] at he
      rcases List.mem_map.mp he with ⟨f, hf, rfl⟩
      exact (hfound f hf).1
  · trivial

theorem Sound.goOn {k : Cycle} {first : Nat} (h : w.Sound) (hk : w.BacksCycle first k) (i : Nat)
    (m : Moment) : (w.goOn i k first m).Sound := by
  unfold Watch.goOn
  split
  · exact h.publish hk i m
  · exact h.put i hk

theorem Sound.note {h : ComponentHealth} {t : Nat} (hsound : w.Sound) (hyields : w.Yields t h)
    (i : Nat) : (w.note i h t).Sound := by
  have hnodup : ([(h.name, h, t)].map fun e => e.1).Nodup := List.nodup_singleton h.name
  apply Sound.put
  · apply hsound.write hnodup
    · intro e he
      rw [List.mem_singleton.mp he]
      exact ⟨rfl, hyields⟩
    · rfl
    · intro name
      by_cases hname : h.name = name
      · subst hname
        rw [List.lookup_cons_self]
        exact HealthService.component?_note_self _ _
      · rw [Keyed.lookup_cons_of_ne _ _ hname]
        exact HealthService.component?_note_of_ne _ hname
  · trivial

theorem Sound.move (h : w.Sound) (hmove : w.Move w') : w'.Sound := by
  cases hmove with
  | served hconfig hfindings =>
      exact h.of_same rfl rfl hconfig hfindings h.backed
  | performing m =>
      exact (h.sendOut _).goOn (backsCycle_start w m.now) _ m
  | recovering c now =>
      have hruns : (w.sendOut [c]).Runs w.tasks.length c :=
        runs_sendOut w List.getElem?_cons_zero
      exact (h.sendOut [c]).put _ hruns
  | unknown name =>
      exact h.put _ trivial
  | ended htask e =>
      exact h.ended htask e
  | looked hcall m =>
      have hbacks := h.backed _ hcall
      exact h.goOn (BacksCycle.settleAll hbacks m.now) _ m
  | @noted i t c since outcome hcall hanswer elapsed =>
      have hruns : w.Runs t c := h.backed _ hcall
      exact h.note ⟨c, outcome, elapsed, hruns, hanswer, rfl⟩ i
  | abandoned i =>
      exact h.put i trivial

theorem Sound.step {a : WatchAction} (h : w.Sound) (hstep : w.step a = some w') : w'.Sound :=
  h.move (move_of_step hstep)

theorem Run.sound (hrun : Run (ofConfig config) log w) : w.Sound :=
  Trace.invariant Sound.step hrun (Sound.ofConfig config)

end Watch
end PoolHealth

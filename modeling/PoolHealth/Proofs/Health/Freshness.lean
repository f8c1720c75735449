import PoolHealth.Proofs.Health.Origins

/-!
# How fresh findings are

What is said of a component comes from the task of which something was written last, and that need
not be the one that was over last.  A cycle keeps the findings of its quick tasks until the slowest
one is over.  If meanwhile another call looks at a component again and writes what it has found, the
cycle writes the older finding over the newer one.  Findings go back in time in no other way.
-/

namespace PoolHealth

open Scenario (TaskEnd)

namespace CacheEvent

theorem sublist_of_notMem {e : CacheEvent} {before after : List CacheEvent}
    (es : List CacheEvent) (h : (es ++ [e]).Sublist (before ++ after)) (hnot : e ∉ after) :
    (es ++ [e]).Sublist before := by
  rcases List.sublist_append_iff.mp h with ⟨first, second, heq, hfirst, hsecond⟩
  cases second using List.reverseRecOn with
  | nil =>
      rw [heq, List.append_nil]
      exact hfirst
  | append_singleton second last _ =>
      rw [← List.append_assoc] at heq
      have hlast : e = last := List.singleton_inj.mp (List.append_inj' heq rfl).2
      exfalso
      apply hnot
      rw [hlast]
      exact hsecond.subset (List.mem_append_right _ (List.mem_singleton_self last))

end CacheEvent

namespace Watch

variable {config : HealthConfig} {w w' : Watch} {log : Log} {name : String} {t u : Nat}

def InOrder (w : Watch) (es : List CacheEvent) : Prop := es.Sublist w.events

/-- What is said of a component comes from a task that was over no earlier than any other of which
something was written under its name. -/
def Current (w : Watch) (name : String) : Prop :=
  forall h, w.service.component? name = some h ->
    exists t, CacheEvent.source? name w.events = some t ∧ w.Yields t h ∧
      forall u, .wrote name u ∈ w.events -> ¬ w.InOrder [.ended t, .ended u]

/-- After a task was over, another one was over, and something was written of it first. -/
def Overtaken (w : Watch) (name : String) (t u : Nat) : Prop :=
  w.InOrder [.ended t, .ended u, .wrote name u, .wrote name t]

/-!
## One state
-/

theorem Sound.not_inOrder_self (h : w.Sound) (t : Nat) : ¬ w.InOrder [.ended t, .ended t] := by
  intro horder
  have hpair := h.ordered.sublist horder
  rw [List.pairwise_pair] at hpair
  exact hpair rfl

/-- Whatever was over later than what is cached, and was written, was written before it. -/
theorem Sound.overtaken (h : w.Sound) (hsource : CacheEvent.source? name w.events = some t)
    (hwrote : .wrote name u ∈ w.events) (horder : w.InOrder [.ended t, .ended u]) :
    w.Overtaken name t u := by
  have hne : u ≠ t := by
    intro heq
    subst heq
    exact h.not_inOrder_self u horder
  rcases CacheEvent.split_of_source? hsource with ⟨before, after, hevents, hafter⟩
  have hbefore : .wrote name u ∈ before := by
    rw [hevents] at hwrote
    rcases List.mem_append.mp hwrote with hmem | hmem
    · exact hmem
    · rcases List.mem_cons.mp hmem with heq | hlater
      · cases heq
        exact absurd rfl hne
      · exact absurd hlater (hafter u)
  rcases List.append_of_mem hbefore with ⟨early, late, rfl⟩
  -- Neither of the tasks can be over after something was written of the later one.
  have hends : [CacheEvent.ended t, .ended u].Sublist early := by
    have hsplit : w.events = early ++ .wrote name u :: (late ++ .wrote name t :: after) := by
      rw [hevents, List.append_assoc]
      rfl
    have hordered := h.ordered
    unfold InOrder at horder
    rw [hsplit] at horder hordered
    have hnot : CacheEvent.ended u ∉ .wrote name u :: (late ++ .wrote name t :: after) := by
      intro hmem
      rcases List.mem_cons.mp hmem with heq | hlater
      · cases heq
      · exact (List.pairwise_cons.mp (List.pairwise_append.mp hordered).2.1).1 _ hlater rfl
    exact CacheEvent.sublist_of_notMem [.ended t] horder hnot
  unfold Overtaken InOrder
  rw [hevents, List.append_assoc]
  have hwrites : [CacheEvent.wrote name u, .wrote name t].Sublist
      (.wrote name u :: (late ++ .wrote name t :: after)) := by
    apply List.Sublist.cons_cons
    exact List.singleton_sublist.mpr (List.mem_append_right _ List.mem_cons_self)
  exact hends.append hwrites

theorem Sound.exists_source {found : ComponentHealth} (h : w.Sound)
    (hfound : w.service.component? name = some found) :
    exists t, CacheEvent.source? name w.events = some t ∧ w.Yields t found := by
  cases hsource : CacheEvent.source? name w.events with
  | none =>
      rw [h.empty name hsource] at hfound
      cases hfound
  | some t =>
      rcases h.sourced name t hsource with ⟨cached, hcached, _, hyields⟩
      rw [hfound] at hcached
      cases hcached
      exact ⟨t, rfl, hyields⟩

theorem Sound.current_iff (h : w.Sound) (name : String) :
    w.Current name <-> forall t, CacheEvent.source? name w.events = some t ->
      forall u, ¬ w.Overtaken name t u := by
  constructor
  · intro hcurrent t hsource u hovertaken
    rcases h.sourced name t hsource with ⟨found, hfound, _, _⟩
    rcases hcurrent found hfound with ⟨s, hs, _, hnewest⟩
    rw [hsource] at hs
    cases hs
    apply hnewest u
    · exact hovertaken.subset (by simp)
    · have hends : [CacheEvent.ended t, .ended u].Sublist
          [.ended t, .ended u, .wrote name u, .wrote name t] := List.sublist_append_left _ _
      exact hends.trans hovertaken
  · intro hnone found hfound
    rcases h.exists_source hfound with ⟨t, hsource, hyields⟩
    refine ⟨t, hsource, hyields, ?_⟩
    intro u hwrote horder
    exact hnone t hsource u (h.overtaken hsource hwrote horder)

/-!
## A whole run
-/

def Tells (w w' : Watch) : Prop :=
  exists new, w'.events = w.events ++ new ∧
    forall name t, .wrote name t ∈ new -> CacheEvent.source? name new = some t

theorem tells_of_same (hevents : w'.events = w.events) : w.Tells w' := by
  refine ⟨[], ?_, ?_⟩
  · rw [hevents, List.append_nil]
  · intro name t hmem
    cases hmem

theorem tells_write (w : Watch) (s : HealthService)
    {found : List (String × ComponentHealth × Nat)} (hnodup : (found.map fun e => e.1).Nodup) :
    w.Tells (w.write s found) := by
  refine ⟨_, rfl, ?_⟩
  intro name t hmem
  rcases List.mem_map.mp hmem with ⟨e, he, heq⟩
  cases heq
  have hlookup : found.lookup e.1 = some e.2 := Keyed.lookup_eq_some_of_mem hnodup he
  rw [CacheEvent.source?_wrote hnodup, hlookup]
  rfl

theorem tells_publish (w : Watch) (i : Nat) (k : Cycle) (first : Nat) (m : Moment) :
    w.Tells (w.publish i k first m) :=
  tells_write w (w.service.publish (k.result w.service.config m.now m.wall m.correlationId))
    (Keyed.nodup_collect _ (k.found first))

theorem tells_note (w : Watch) (i : Nat) (h : ComponentHealth) (t : Nat) :
    w.Tells (w.note i h t) := by
  have hnodup : ([(h.name, h, t)].map fun e => e.1).Nodup := List.nodup_singleton h.name
  exact tells_write w (w.service.note h) hnodup

theorem tells_goOn (w : Watch) (i : Nat) (k : Cycle) (first : Nat) (m : Moment) :
    w.Tells (w.goOn i k first m) := by
  unfold goOn
  split
  · exact tells_publish w i k first m
  · exact tells_of_same rfl

theorem tells_step {a : WatchAction} (hstep : w.step a = some w') : w.Tells w' := by
  cases move_of_step hstep with
  | served _ _ | recovering c now | unknown name | abandoned i =>
      exact tells_of_same rfl
  | performing m =>
      exact tells_goOn (w.sendOut w.service.checks) _ _ _ m
  | ended htask e =>
      refine ⟨[.ended _], rfl, ?_⟩
      intro name u hmem
      cases List.mem_singleton.mp hmem
  | looked hcall m =>
      exact tells_goOn w _ _ _ m
  | noted hcall hanswer elapsed =>
      exact tells_note w _ _ _

theorem Run.events_prefix (hrun : Run w log w') : w.events <+: w'.events := by
  induction hrun with
  | done w =>
      exact List.prefix_refl _
  | act hstep _ ih =>
      rcases tells_step hstep with ⟨new, hevents, _⟩
      rw [hevents] at ih
      exact (List.prefix_append _ new).trans ih

theorem Tells.source? (htells : w.Tells w') (hnot : ¬ w.Overtaken name t u)
    (hovertaken : w'.Overtaken name t u) : CacheEvent.source? name w'.events = some t := by
  rcases htells with ⟨new, hevents, honce⟩
  have hmem : .wrote name t ∈ new := by
    by_contra hnew
    apply hnot
    unfold Overtaken InOrder at hovertaken
    rw [hevents] at hovertaken
    exact CacheEvent.sublist_of_notMem [.ended t, .ended u, .wrote name u] hovertaken hnew
  rw [hevents, CacheEvent.source?_append, honce name t hmem]
  rfl

theorem Run.never_overtaken (hrun : Run (ofConfig config) log w)
    (hbefore : forall e, e ∈ log -> e.1.Current name) (hcurrent : w.Current name) (t u : Nat) :
    ¬ w.Overtaken name t u := by
  revert hbefore hcurrent
  apply Trace.recorded (I := fun log w => (forall e, e ∈ log -> e.1.Current name) ->
    w.Current name -> ¬ w.Overtaken name t u) _ _ hrun
  · intro _ _ hovertaken
    cases hovertaken
  · intro log v w a hrun ih hstep hbefore hcurrent hovertaken
    have hearlier : ¬ v.Overtaken name t u := by
      apply ih
      · intro e he
        exact hbefore e (List.mem_append_left _ he)
      · exact hbefore (v, a) (List.mem_append_right _ (List.mem_singleton_self _))
    have hsource := (tells_step hstep).source? hearlier hovertaken
    have hsound : w.Sound := (Run.sound hrun).step hstep
    exact (hsound.current_iff name).mp hcurrent t hsource u hovertaken

theorem Run.always_current (hrun : Run (ofConfig config) log w)
    (hnever : forall t u, ¬ w.Overtaken name t u) : forall e, e ∈ log -> e.1.Current name := by
  intro e he
  rcases Trace.split hrun he with ⟨before, later, v, _, hbefore, hstep, hlater⟩
  have hsound : e.1.Sound := Run.sound hbefore
  have hprefix : e.1.events <+: w.events := Run.events_prefix (Trace.act hstep hlater)
  rw [hsound.current_iff]
  intro t _ u hovertaken
  exact hnever t u (hovertaken.trans hprefix.sublist)

/-- What can be said of the findings on a component after a run. -/
structure Freshness (log : Log) (w : Watch) (name : String) : Prop where
  /-- What is said comes from the task of which something was written last under the name. -/
  sourced : forall h, w.service.component? name = some h ->
    exists t, CacheEvent.source? name w.events = some t ∧ w.Yields t h
  /-- It is up to date if and only if that task was not overtaken by another one. -/
  current_iff : w.Current name <-> forall t, CacheEvent.source? name w.events = some t ->
    forall u, ¬ w.Overtaken name t u
  /-- It has been so all the time if and only if no task was ever overtaken. -/
  always_iff : (forall e, e ∈ log -> e.1.Current name) ∧ w.Current name
    <-> forall t u, ¬ w.Overtaken name t u

theorem Run.freshness (hrun : Run (ofConfig config) log w) (name : String) :
    Freshness log w name := by
  have hsound : w.Sound := hrun.sound
  have hcurrent := hsound.current_iff name
  constructor
  · intro h hfound
    exact hsound.exists_source hfound
  · exact hcurrent
  · constructor
    · intro halways
      exact hrun.never_overtaken halways.1 halways.2
    · intro hnever
      constructor
      · exact hrun.always_current hnever
      · exact hcurrent.mpr fun t _ => hnever t

/-!
## Going back in time
-/

def cacheCheck : HealthCheck := ⟨"cache", .cache, .outside 0⟩

def searchCheck : HealthCheck := ⟨"search", .other, .outside 1⟩

def momentAt (millis : Nat) : Moment := ⟨.ofMillis millis, ⟨0, 0⟩, "first"⟩

def foundAs (c : HealthCheck) (status : HealthStatus) : TaskEnd :=
  .finished [.checked (.ok (c.plain status ""))]

/-- The cache is found unhealthy by a cycle that waits for the search.  Meanwhile a recovery finds
it healthy. -/
def slowSearch : List WatchAction :=
  [.register cacheCheck, .register searchCheck, .perform (momentAt 0),
    .ended 0 (foundAs cacheCheck .unhealthy), .recover "cache" (.ofMillis 20),
    .ended 2 (foundAs cacheCheck .healthy), .look 1 (momentAt 20),
    .ended 1 (foundAs searchCheck .healthy), .look 0 (momentAt 100)]

/-- Before the search is over, the cache is as the recovery has found it. -/
theorem freshness_while_searching : exists log w, Run (ofConfig .standard) log w ∧
    log.map (fun e => e.2) = slowSearch.take 7 ∧
      (w.service.component? "cache").map ComponentHealth.status = some .healthy ∧
        Freshness log w "cache" := by
  have hany : (Trace.compute step (ofConfig .standard) (slowSearch.take 7)).any (fun w =>
      (w.service.component? "cache").map ComponentHealth.status = some .healthy) = true := by
    decide +kernel
  rcases Trace.exists_of_any hany with ⟨log, w, hrun, hactions, hhealthy⟩
  exact ⟨log, w, hrun, hactions, of_decide_eq_true hhealthy, Run.freshness hrun "cache"⟩

/-- When the search is over, the cache is what the cycle had found before. -/
theorem older_finding_returns : exists log w, Run (ofConfig .standard) log w ∧
    log.map (fun e => e.2) = slowSearch ∧
      (w.service.component? "cache").map ComponentHealth.status = some .unhealthy ∧
        ¬ w.Current "cache" := by
  have hany : (Trace.compute step (ofConfig .standard) slowSearch).any (fun w =>
      (w.service.component? "cache").map ComponentHealth.status = some .unhealthy ∧
        CacheEvent.source? "cache" w.events = some 0 ∧
          [.ended 0, .ended 2, .wrote "cache" 2, .wrote "cache" 0].Sublist w.events) = true := by
    decide +kernel
  rcases Trace.exists_of_any hany with ⟨log, w, hrun, hactions, hend⟩
  rcases of_decide_eq_true hend with ⟨hunhealthy, hsource, hovertaken⟩
  refine ⟨log, w, hrun, hactions, hunhealthy, ?_⟩
  intro hcurrent
  exact ((Run.sound hrun).current_iff "cache").mp hcurrent 0 hsource 2 hovertaken

end Watch
end PoolHealth

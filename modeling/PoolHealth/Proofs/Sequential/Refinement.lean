import PoolHealth.Proofs.Sequential.SettingUp

/-!
# A pool that is used by one at a time

If operations do not overlap a pool does what the queue does.  Each operation comes to an
end, in one way only; it answers what the queue answers and asks the backend for the same,
at the same time.  In between the pool has idle what is in the queue, and its counters say
how much that is.
-/

namespace PoolHealth

open ConnectionPool Token

/-- A pool, what happened so far, and the connections that were borrowed. -/
structure World where
  pool : ConnectionPool
  journal : Journal := {}
  held : List Lease := []

namespace World

def fresh (c : PoolConfig) : World where
  pool := .ofConfig c

def settle (w : World) : World :=
  { w with
    pool := { w.pool with outbox := [] }
    journal := w.journal.noteAll w.pool.dues }

def view (w : World) : Reference where
  journal := w.journal
  ready := w.pool.isReady
  queue := w.pool.idle
  held := w.held

def release (w : World) (i : Nat) (mark : Lease -> Lease) : World :=
  match w.held[i]? with
  | some l =>
      settle
        { w with
          pool := w.pool.giveBack w.journal.now (mark l) true
          held := w.held.eraseIdx i }
  | none => w

variable {env : Surroundings} {c : PoolConfig} {w w' v : World} {o : Operation} {a b : Answer}

inductive Performs (env : Surroundings) : World -> Operation -> World -> Answer -> Prop where
  | setUp {w : World} {q : ConnectionPool} {k : Journal} {r : Except PoolError Unit}
      (h : WarmUp.machine.Drives env w.journal (WarmUp.start w.pool w.journal.now) k (q, r)) :
      Performs env w .setUp (settle ⟨q, k, w.held⟩) (.switched r)
  | acquire {w : World} {q : ConnectionPool} {k : Journal} {r : Except PoolError Lease}
      (h : Acquire.machine.Drives env w.journal (Acquire.start w.pool w.journal.now) k (q, r)) :
      Performs env w .acquire (settle ⟨q, k, w.held ++ r.toOption.toList⟩) (.lent r)
  | tryAcquire {w : World} {q : ConnectionPool} {k : Journal} {r : Except PoolError Lease}
      (h : (Checkout.machine .caller).Drives env w.journal
        (Checkout.start w.pool w.journal.now) k (q, r)) :
      Performs env w .tryAcquire (settle ⟨q, k, w.held ++ r.toOption.toList⟩) (.lent r)
  | release (w : World) (i : Nat) : Performs env w (.release i) (w.release i id) .nothing
  | discard (w : World) (i : Nat) :
      Performs env w (.discard i) (w.release i fun l => { l with broken := true }) .nothing
  | checkup {w : World} {q : ConnectionPool} {k : Journal} {healthy : Bool}
      (h : Checkup.machine.Drives env w.journal (Checkup.start w.pool w.journal.now) k
        (q, healthy)) :
      Performs env w .checkup (settle ⟨q, k, w.held⟩) .nothing
  | tick {w : World} {due next : Instant} {q : ConnectionPool} {k : Journal}
      (h : Maintenance.machine.Drives env w.journal
        (Maintenance.machine.step w.pool w.journal.now (.resting due) .stirred) k (q, next)) :
      Performs env w (.tick due) (settle ⟨q, k, w.held⟩) .nothing
  | elapse (w : World) (d : Duration) :
      Performs env w (.elapse d) { w with journal := w.journal.pass d } .nothing

inductive PerformsAll (env : Surroundings) :
    World -> List Operation -> World -> List Answer -> Prop where
  | done (w : World) : PerformsAll env w [] w []
  | next {u v w : World} {o : Operation} {os : List Operation} {a : Answer} {as : List Answer}
      (hfirst : Performs env u o v a) (hrest : PerformsAll env v os w as) :
      PerformsAll env u (o :: os) w (a :: as)

theorem Performs.unique (h : Performs env w o v a) (h' : Performs env w o w' b) :
    w' = v ∧ b = a := by
  cases h with
  | setUp h | acquire h | tryAcquire h | checkup h | tick h =>
      cases h' with
      | _ h' =>
          rcases h.unique h' with ⟨rfl, heq⟩
          cases heq
          exact ⟨rfl, rfl⟩
  | release | discard | elapse =>
      cases h'
      exact ⟨rfl, rfl⟩

theorem PerformsAll.unique {os : List Operation} {as bs : List Answer}
    (h : PerformsAll env w os v as) (h' : PerformsAll env w os w' bs) : w' = v ∧ bs = as := by
  induction h generalizing bs with
  | done w =>
      cases h'
      exact ⟨rfl, rfl⟩
  | next hfirst _ ih =>
      cases h' with
      | next hfirst' hrest' =>
          rcases hfirst.unique hfirst' with ⟨rfl, rfl⟩
          rcases ih hrest' with ⟨rfl, rfl⟩
          exact ⟨rfl, rfl⟩

/-!
## One operation
-/

structure Resting (c : PoolConfig) (w : World) : Prop where
  shows : Shows c w.pool 0 w.view
  lock : w.pool.lifecycle = .lock
  outbox : w.pool.outbox = []

theorem Resting.fresh (hc : c.fault? = none) : Resting c (fresh c) where
  shows := {
    config := rfl
    ready := rfl
    queue := rfl
    fit := ⟨Sound.ofConfig hc, ⟨Nat.zero_le _, Nat.zero_le _⟩⟩
    opened := rfl
    nobody := rfl }
  lock := rfl
  outbox := rfl

theorem Resting.dues_eq (h : Resting c w) : w.pool.dues = [] := by
  unfold ConnectionPool.dues
  rw [h.outbox]
  rfl

/-- What an operation comes to at a pool, it comes to at the queue. -/
def Refines (env : Surroundings) (c : PoolConfig) (w : World) (o : Operation) : Prop :=
  exists w' a, Performs env w o w' a ∧ Resting c w' ∧ (w'.view, a) = w.view.perform env c o

theorem refines_of_reaches {q : ConnectionPool} {k : Journal} {held : List Lease} {s : Reference}
    (h : Reaches c q k s) (hlock : q.lifecycle = .lock) (hheld : s.held = held)
    (hperforms : Performs env w o (settle ⟨q, k, held⟩) a)
    (hreference : w.view.perform env c o = (s, a)) : Refines env c w o := by
  subst hheld
  have hview : (settle ⟨q, k, s.held⟩).view = s := by
    show Reference.mk (k.noteAll q.dues) q.isReady q.idle s.held = s
    rw [← h.journal, h.shows.ready, h.shows.queue]
  have hnoted := h.shows.fit.gain k.now (Change.note q)
  rw [add_comm] at hnoted
  refine ⟨_, a, hperforms, ⟨?_, hlock, rfl⟩, ?_⟩
  · rw [hview]
    exact ⟨h.shows.config, h.shows.ready, h.shows.queue, hnoted.of_add_doomed, h.shows.opened,
      h.shows.nobody⟩
  · rw [hview, hreference]

namespace Resting

theorem refines_setUp (env : Surroundings) (h : Resting c w) : Refines env c w .setUp := by
  rcases WarmUp.drives_start env h.shows h.lock h.dues_eq with ⟨q, hdrives, hshows, hdues, hlock⟩
  exact refines_of_reaches (Reaches.of_shows hshows hdues) hlock (Reference.held_setUp ..)
    (.setUp hdrives) rfl

theorem refines_checkup (env : Surroundings) (h : Resting c w) : Refines env c w .checkup := by
  rcases Checkup.drives_start env h.shows h.dues_eq with ⟨q, k, healthy, hdrives, hreached⟩
  have hlock := (Checkup.serves_of_drives hdrives).lifecycle.trans h.lock
  exact refines_of_reaches hreached hlock (Reference.held_checkup ..) (.checkup hdrives) rfl

theorem refines_tick (env : Surroundings) (h : Resting c w) (due : Instant) :
    Refines env c w (.tick due) := by
  rcases Maintenance.drives_tick env h.shows h.dues_eq due with ⟨q, k, next, hdrives, hreached⟩
  have hlock := (Maintenance.serves_of_drives hdrives).lifecycle.trans h.lock
  exact refines_of_reaches hreached hlock (Reference.held_checkup ..) (.tick hdrives) rfl

theorem refines_tryAcquire (env : Surroundings) (h : Resting c w) :
    Refines env c w .tryAcquire := by
  have hreached := Reaches.of_shows h.shows h.dues_eq
  cases hready : w.view.ready with
  | false =>
      have hstart := Checkout.start_of_not_ready h.shows hready w.journal.now
      refine refines_of_reaches hreached h.lock (List.append_nil _).symm
        (.tryAcquire (.of_done hstart)) ?_
      simp [Reference.perform, hready]
  | true =>
      cases hfull : w.view.isFull c with
      | true =>
          have hstart := Checkout.start_of_full h.shows rfl hready hfull w.journal.now
          refine refines_of_reaches hreached h.lock (List.append_nil _).symm
            (.tryAcquire (.of_done hstart)) ?_
          simp [Reference.perform, hready, hfull]
      | false =>
          rcases Checkout.drives_start env .caller h.shows rfl hready hfull with
            ⟨q, hdrives, hends⟩
          have hlent := Reaches.of_shows (hends.shows_lend h.shows) (hends.dues.trans h.dues_eq)
          refine refines_of_reaches hlent (hends.serves.lifecycle.trans h.lock) rfl
            (.tryAcquire hdrives) ?_
          simp [Reference.perform, Reference.lend, hready, hfull]

theorem refines_acquire (env : Surroundings) (h : Resting c w) : Refines env c w .acquire := by
  cases hready : w.view.ready with
  | false =>
      have hreached := Reaches.of_shows h.shows h.dues_eq
      have hstart := Acquire.start_of_not_ready h.shows hready w.journal.now
      refine refines_of_reaches hreached h.lock (List.append_nil _).symm
        (.acquire (.of_done hstart)) ?_
      simp [Reference.perform, hready]
  | true =>
      cases hfull : w.view.isFull c with
      | true =>
          rcases Acquire.drives_full env h.shows hready hfull with
            ⟨q, hdrives, hshows, hdues, hlock⟩
          have hreached := Reaches.of_shows hshows (hdues.trans h.dues_eq)
          refine refines_of_reaches hreached (hlock.trans h.lock) (List.append_nil _).symm
            (.acquire hdrives) ?_
          simp [Reference.perform, hready, hfull]
      | false =>
          rcases Acquire.drives_start env h.shows rfl hready hfull with ⟨q, hdrives, hends⟩
          have hlent := Reaches.of_shows (hends.shows_lend h.shows) (hends.dues.trans h.dues_eq)
          refine refines_of_reaches hlent (hends.serves.lifecycle.trans h.lock) rfl
            (.acquire hdrives) ?_
          simp [Reference.perform, Reference.lend, hready, hfull]

theorem refines_release {i : Nat} {mark : Lease -> Lease} (h : Resting c w)
    (hperforms : Performs env w o (w.release i mark) a)
    (hreference : w.view.perform env c o = (w.view.release c i mark, a))
    (hmark : forall l, (mark l).connection = l.connection) : Refines env c w o := by
  unfold World.release at hperforms
  unfold Reference.release at hreference
  cases hlent : w.held[i]? with
  | none =>
      rw [hlent] at hperforms
      have hlent' : w.view.held[i]? = none := hlent
      rw [hlent'] at hreference
      exact ⟨w, a, hperforms, h, hreference.symm⟩
  | some l =>
      rw [hlent] at hperforms
      have hlent' : w.view.held[i]? = some l := hlent
      rw [hlent'] at hreference
      have hshows : Shows c w.pool ({.lent (mark l).connection} + 0)
          { w.view with held := w.view.held.eraseIdx i } := by
        refine h.shows.serves (.refl w.pool) rfl h.shows.queue ?_
        have hfit := h.shows.fit
        rw [loans_eraseIdx hlent', zero_add, ← hmark l] at hfit
        rw [add_zero]
        exact hfit
      rcases hshows.giveBack h.dues_eq with ⟨hback, hjournal⟩
      have hserves : Serves w.pool (w.pool.giveBack w.journal.now (mark l) true) :=
        .giveBack w.pool (mark l) true
      exact refines_of_reaches ⟨hback, hjournal⟩ (hserves.lifecycle.trans h.lock)
        (Reference.held_giveBack ..) hperforms hreference

theorem refines (env : Surroundings) (h : Resting c w) (o : Operation) : Refines env c w o := by
  cases o with
  | setUp =>
      exact h.refines_setUp env
  | acquire =>
      exact h.refines_acquire env
  | tryAcquire =>
      exact h.refines_tryAcquire env
  | release i =>
      exact h.refines_release (.release w i) rfl (fun _ => rfl)
  | discard i =>
      exact h.refines_release (.discard w i) rfl (fun _ => rfl)
  | checkup =>
      exact h.refines_checkup env
  | tick due =>
      exact h.refines_tick env due
  | elapse d =>
      exact ⟨_, _, .elapse w d, ⟨⟨h.shows.config, h.shows.ready, h.shows.queue, h.shows.fit,
        h.shows.opened, h.shows.nobody⟩, h.lock, h.outbox⟩, rfl⟩

end Resting

/-!
## One operation after another
-/

theorem exists_performsAll (env : Surroundings) (h : Resting c w) (os : List Operation) :
    exists w' as,
      PerformsAll env w os w' as ∧ Resting c w' ∧ (w'.view, as) = w.view.performAll env c os := by
  -- Every operation leaves the pool as the next one needs it.
  induction os generalizing w with
  | nil =>
      exact ⟨w, [], .done w, h, rfl⟩
  | cons o rest ih =>
      rcases h.refines env o with ⟨v, a, hfirst, hv, heq⟩
      rcases ih hv with ⟨w', as, hrest, hw', heq'⟩
      refine ⟨w', a :: as, .next hfirst hrest, hw', ?_⟩
      unfold Reference.performAll
      rw [← heq]
      dsimp only
      rw [← heq']

structure Accounted (c : PoolConfig) (w : World) : Prop where
  active : w.pool.stats.active = w.held.length
  idle : w.pool.stats.idle = w.pool.idle.length
  total : w.pool.stats.total = w.pool.stats.active + w.pool.stats.idle
  capacity : w.pool.stats.total ≤ c.maxSize.toNat
  peak : w.pool.stats.peak ≤ c.maxSize.toNat
  flow : w.pool.stats.creations = w.pool.stats.closures + w.pool.stats.total
  waiting : w.pool.stats.waiting = 0
  pending : w.pool.pending = 0

theorem Resting.accounted (h : Resting c w) : Accounted c w := by
  have hbalanced := h.shows.fit.sound.balanced
  have hbelow := h.shows.fit.below
  have hload := hbelow.load
  have hsummit := hbelow.summit
  have hactive := hbalanced.active
  have hpending := hbalanced.pending
  have hwaiting := hbalanced.waiting
  rw [zero_add, tally_loans active 1 (fun _ => rfl), Nat.one_mul] at hactive
  rw [zero_add, tally_loans Token.pending 0 (fun _ => rfl), Nat.zero_mul] at hpending
  rw [zero_add, tally_loans inLine 0 (fun _ => rfl), Nat.zero_mul] at hwaiting
  unfold load at hload
  unfold room at hload hsummit
  rw [h.shows.config] at hload hsummit
  constructor
  · exact hactive
  · exact hbalanced.idle
  · rw [hbalanced.idle]
    exact hbalanced.total
  · omega
  · rw [hbalanced.peak]
    exact hsummit
  · exact hbalanced.creations
  · exact hwaiting
  · exact hpending

namespace Resting

variable {r : Except PoolError Lease}

theorem perform_eq (h : Resting c w) (hperforms : Performs env w o v a) :
    (v.view, a) = w.view.perform env c o := by
  rcases h.refines env o with ⟨w', b, hperforms', _, heq⟩
  rcases hperforms'.unique hperforms with ⟨rfl, rfl⟩
  exact heq

theorem exhausted_iff (h : Resting c w) (hready : w.pool.isReady = true)
    (hperforms : Performs env w .tryAcquire v (.lent r)) :
    r = .error (.exhausted c.name) <-> w.held.length = c.maxSize.toNat := by
  have hanswer : .lent r = (w.view.perform env c .tryAcquire).2 :=
    congrArg Prod.snd (h.perform_eq hperforms)
  have hturned : (w.view.perform env c .tryAcquire).2 = .lent (.error (.exhausted c.name)) <->
      w.held.length = c.maxSize.toNat := Reference.answer_tryAcquire_iff hready
  rwa [← hanswer, Answer.lent.injEq] at hturned

theorem timedOut_iff (h : Resting c w) (hready : w.pool.isReady = true)
    (hperforms : Performs env w .acquire v (.lent r)) :
    r = .error (.connectionTimeout c.name c.connectionTimeout) <->
      w.held.length = c.maxSize.toNat := by
  have hanswer : .lent r = (w.view.perform env c .acquire).2 :=
    congrArg Prod.snd (h.perform_eq hperforms)
  have hwaited : (w.view.perform env c .acquire).2 =
        .lent (.error (.connectionTimeout c.name c.connectionTimeout)) <->
      w.held.length = c.maxSize.toNat := Reference.answer_acquire_iff hready
  rwa [← hanswer, Answer.lent.injEq] at hwaited

theorem journal_of_full (h : Resting c w) (hready : w.pool.isReady = true)
    (hperforms : Performs env w .acquire v (.lent r)) (hfull : w.held.length = c.maxSize.toNat) :
    v.journal = w.journal.pass (env.alarm c.connectionTimeout) := by
  have hjournal : v.journal = (w.view.perform env c .acquire).1.journal :=
    congrArg (fun x => x.1.journal) (h.perform_eq hperforms)
  exact hjournal.trans (Reference.journal_acquire_of_full hready hfull)

end Resting

/-- A pool on which one operation follows another is a queue of idle connections and a list
of borrowed ones.  All slots are taken if and only if that many connections are borrowed, and
only then a caller is turned away at once or waits in vain; whoever waits does so for just
the time that is set, and the backend is not asked for anything. -/
theorem behaves_as_queue (hc : c.fault? = none) (env : Surroundings) (os : List Operation) :
    exists w as,
      PerformsAll env (fresh c) os w as ∧
        (forall w' as', PerformsAll env (fresh c) os w' as' -> w' = w ∧ as' = as) ∧
        (w.view, as) = Reference.performAll env c {} os ∧
        Accounted c w ∧
        (w.pool.isReady = true ->
          (forall w' r, Performs env w .tryAcquire w' (.lent r) ->
            (r = .error (.exhausted c.name) <-> w.held.length = c.maxSize.toNat)) ∧
          (forall w' r, Performs env w .acquire w' (.lent r) ->
            (r = .error (.connectionTimeout c.name c.connectionTimeout) <->
              w.held.length = c.maxSize.toNat) ∧
            (w.held.length = c.maxSize.toNat ->
              w'.journal = w.journal.pass (env.alarm c.connectionTimeout)))) := by
  rcases exists_performsAll env (Resting.fresh hc) os with ⟨w, as, hperforms, hrest, heq⟩
  refine ⟨w, as, hperforms, ?_, heq, hrest.accounted, ?_⟩
  · intro w' as' hperforms'
    exact hperforms.unique hperforms'
  · intro hready
    constructor
    · intro w' r htry
      exact hrest.exhausted_iff hready htry
    · intro w' r hacquire
      exact ⟨hrest.timedOut_iff hready hacquire, hrest.journal_of_full hready hacquire⟩

def promptBackend : Surroundings where
  creation := fun j => (.zero, .ok ⟨j.requests.length⟩)
  validation := fun _ _ => (.zero, true)
  closure := fun _ _ => (.zero, .ok ())
  alarm := id

/-- Two connections are borrowed, and there is no third one. -/
theorem behaves_as_queue_when_full :
    Traffic.pairConfig.fault? = none ∧
      exists w as,
        PerformsAll promptBackend (fresh Traffic.pairConfig) [.setUp, .acquire, .tryAcquire] w as ∧
          w.held.length = 2 ∧ w.pool.stats.active = 2 ∧ w.pool.stats.idle = 0 ∧
          w.pool.isReady = true ∧
          (forall w' r, Performs promptBackend w .tryAcquire w' (.lent r) ->
            r = .error (.exhausted "p")) ∧
          forall w' r, Performs promptBackend w .acquire w' (.lent r) ->
            w'.journal = w.journal.pass Traffic.pairConfig.connectionTimeout := by
  have hsettings : Traffic.pairConfig.fault? = none := by decide +kernel
  refine ⟨hsettings, ?_⟩
  rcases behaves_as_queue hsettings promptBackend [.setUp, .acquire, .tryAcquire] with
    ⟨w, as, hperforms, _, heq, hcounts, hturned⟩
  have hview : w.view =
      (Reference.performAll promptBackend Traffic.pairConfig {}
        [.setUp, .acquire, .tryAcquire]).1 :=
    congrArg Prod.fst heq
  have hheld : w.held.length = 2 := by
    show w.view.held.length = 2
    rw [hview]
    decide +kernel
  have hidle : w.pool.idle.length = 0 := by
    show w.view.queue.length = 0
    rw [hview]
    decide +kernel
  have hready : w.pool.isReady = true := by
    show w.view.ready = true
    rw [hview]
    decide +kernel
  rcases hturned hready with ⟨htry, hacquire⟩
  refine ⟨w, as, hperforms, hheld, hcounts.active.trans hheld, hcounts.idle.trans hidle, hready,
    ?_, ?_⟩
  · intro w' r h
    exact (htry w' r h).mpr hheld
  · intro w' r h
    exact (hacquire w' r h).2 hheld

end World
end PoolHealth

import PoolHealth.Proofs.Pool.Deeds

/-!
# The deeds of each call

Each call minds what its request is about and nothing else.  What it holds when it waits again,
and what it answers, has a date if the pool and the call had dates before.
-/

namespace PoolHealth

open ConnectionPool

variable {P : Instant -> Prop} {p q : ConnectionPool} {now : Instant} {l : Lease}

/-!
## Checking a connection out
-/

theorem Opening.deeds_of_step {o : Opening} {r : Reply}
    {progress : Progress Opening (Except PoolError Connection)} {matters : List Matter}
    (hm : .failure ∈ matters) (hstep : o.step p now r = (q, progress)) :
    Deeds P now matters p q := by
  rcases pool_of_step hstep with rfl | rfl
  · exact .refl _
  · exact .one hm (.error p)

namespace Checkout

/-- How a checkout stands, or what it has come to, as far as dates are concerned. -/
def DatedAfter (P : Instant -> Prop) : Progress Checkout (Except PoolError Lease) -> Prop :=
  Progress.Holds (Checkout.Dated P) (Lent P)

theorem does_pursue {candidate : Option IdleConnection}
    (hcandidate : forall e, candidate = some e -> P e.createdAt) :
    Does P now Matter.plain (Checkout.Dated P) p (pursue p candidate) := by
  cases candidate with
  | none =>
      exact ⟨.one (by decide) (.reserve p), trivial⟩
  | some e =>
      exact ⟨.refl p, hcandidate e rfl⟩

theorem does_search (hp : p.Dated P) :
    Does P now Matter.plain (Checkout.Dated P) p (search p now) := by
  have htaken : Deeds P now Matter.plain p (p.takeIdle now).1 ∧
      forall e, (p.takeIdle now).2.1 = some e -> P e.createdAt := by
    rcases takeIdle_cases p now with ⟨expired, e, rest, hidle, _, _, htake⟩ | ⟨_, htake⟩
    · rw [htake]
      refine ⟨.one (by decide) (.pick hidle), ?_⟩
      rintro _ ⟨⟩
      apply hp
      rw [hidle]
      exact List.mem_append_right _ List.mem_cons_self
    · rw [htake]
      refine ⟨.one (by decide) (.sweep p), ?_⟩
      rintro e ⟨⟩
  unfold search
  split
  · rename_i q candidate hidle
    rw [hidle] at htaken
    exact .behind htaken.1 (does_pursue htaken.2)
  · rename_i q candidate c rest hidle
    rw [hidle] at htaken
    exact ⟨htaken.1, htaken.2⟩

theorem deeds_reject (p : ConnectionPool) (l : Lease) :
    Deeds P now Matter.plain p (reject p now l).1 :=
  (Deeds.one (by decide) (.retire p)).and (by decide) (.error _)

theorem does_accept (purpose : CheckoutPurpose) (hl : P l.createdAt) :
    Does P now (Matter.checkingOut purpose) (DatedAfter P) p (accept p purpose l) := by
  cases purpose with
  | caller =>
      exact ⟨.one (by decide) (.hit p), Lent.ok hl⟩
  | healthCheck =>
      exact ⟨.refl p, Lent.ok hl⟩

theorem deeds_openFailed (p : ConnectionPool) :
    Deeds P now Matter.plain p p.dropPending.releaseSlot :=
  (Deeds.one (by decide) (.vacate p)).and (by decide) (.release _)

theorem does_land (hnow : P now) (result : Except PoolError Connection) :
    Does P now Matter.serving (DatedAfter P) p (land p now result) := by
  cases result with
  | ok c =>
      have hopened : Deeds P now Matter.serving p p.recordCreation.addActive :=
        (Deeds.one (by decide) (.open p)).and (by decide) (.lend _)
      exact ⟨hopened.and (by decide) (.vacate _), Lent.ok hnow⟩
  | error e =>
      exact ⟨(deeds_openFailed p).mono Matter.plain_subset, Lent.error e⟩

theorem does_step (purpose : CheckoutPurpose) (hp : p.Dated P) (hnow : P now) {k : Checkout}
    (hk : k.Dated P) (r : Reply) :
    Does P now (Matter.checkingOut purpose) (DatedAfter P) p (k.step purpose p now r) := by
  have hserving := Matter.serving_subset purpose
  have hplain := List.Subset.trans Matter.plain_subset hserving
  have honward := onward purpose p now k r
  generalize k.step purpose p now r = after at honward ⊢
  cases honward with
  | next hclosed =>
      exact ⟨.refl p, hk⟩
  | pursue hclosed =>
      have hpursue : Does P now Matter.plain (Checkout.Dated P) p (pursue p _) := does_pursue hk
      exact ⟨hpursue.deeds.mono hplain, hpursue.dated⟩
  | accept l =>
      exact does_accept purpose hk
  | reject hbad =>
      exact ⟨(deeds_reject p _).mono hplain, trivial⟩
  | search hclosed =>
      have hsearch : Does P now Matter.plain (Checkout.Dated P) p (search p now) := does_search hp
      exact ⟨hsearch.deeds.mono hplain, hsearch.dated⟩
  | again hstep =>
      exact ⟨Opening.deeds_of_step (hplain (by decide)) hstep, trivial⟩
  | land hstep =>
      exact .behind (Opening.deeds_of_step (hplain (by decide)) hstep)
        ((does_land hnow _).mono hserving)
  | still hunfit =>
      exact ⟨.refl p, hk⟩

theorem does_start (hp : p.Dated P) : Does P now Matter.plain (DatedAfter P) p (start p now) := by
  unfold start
  split
  · exact ⟨.refl p, Lent.error _⟩
  · split
    · rename_i slots htaken
      have hslot : Deeds P now Matter.plain p { p with slots := slots } :=
        .one (by decide) (.take htaken)
      have hsearch : Does P now Matter.plain (Checkout.Dated P) { p with slots := slots }
          (search { p with slots := slots } now) := does_search hp
      exact ⟨hslot.trans hsearch.deeds, hsearch.dated⟩
    · exact ⟨.refl p, Lent.error _⟩
    · exact ⟨.refl p, Lent.error _⟩

theorem deeds_cancel (p : ConnectionPool) (k : Checkout) (hk : k.Dated P) :
    Deeds P now Matter.plain p (k.cancel p now) := by
  cases k with
  | closingExpired c rest candidate | closingInvalid c =>
      exact .one (by decide) (.release p)
  | validating l =>
      exact .one (by decide) (.giveBack p hk true)
  | opening o =>
      exact deeds_openFailed p

end Checkout

namespace Acquire

def DatedAfter (P : Instant -> Prop) : Progress Acquire (Except PoolError Lease) -> Prop :=
  Progress.Holds (Acquire.Dated P) (Lent P)

theorem does_proceed (hp : p.Dated P) (started : Instant) :
    Does P now Matter.acquiring (DatedAfter P) p (proceed p now started) := by
  have hsearch : Does P now Matter.plain (Checkout.Dated P) p (Checkout.search p now) :=
    Checkout.does_search hp
  exact ⟨hsearch.deeds.mono (by decide), hsearch.dated⟩

theorem does_start (hp : p.Dated P) :
    Does P now Matter.acquiring (DatedAfter P) p (start p now) := by
  unfold start
  split
  · exact ⟨.refl p, Lent.error _⟩
  · split
    · rename_i slots htaken
      have hslot : Deeds P now Matter.acquiring p { p with slots := slots } :=
        .one (by decide) (.take htaken)
      exact .behind hslot (does_proceed (hslot.dated hp) now)
    · exact ⟨.refl p, Lent.error _⟩
    · exact ⟨.one (by decide) (.join p), trivial⟩

theorem deeds_leave (p : ConnectionPool) (t : Ticket) :
    Deeds P now Matter.leaving p (p.leaveSlotQueue t).dropWaiter :=
  (Deeds.one (by decide) (.leave p t)).and (by decide) (.unline _)

theorem deeds_giveUp (p : ConnectionPool) (t : Ticket) :
    Deeds P now Matter.acquiring p (giveUp p t).1 :=
  ((Deeds.one (by decide) (.leave p t)).and (by decide) (.exhaust _)).and (by decide) (.unline _)

theorem does_step (hp : p.Dated P) (hnow : P now) {k : Acquire} (hk : k.Dated P) (r : Reply) :
    Does P now Matter.acquiring (DatedAfter P) p (k.step p now r) := by
  have hcheckout : forall started c q progress, k = checkingOut started c ->
      c.step .caller p now r = (q, progress) ->
        Deeds P now Matter.acquiring p q ∧ Checkout.DatedAfter P progress := by
    rintro started c q progress rfl hstep
    have hdoes := Checkout.does_step .caller hp hnow hk r
    rw [hstep] at hdoes
    exact ⟨hdoes.deeds.mono (by decide), hdoes.dated⟩
  have honward := onward p now k r
  generalize k.step p now r = after at honward ⊢
  cases honward with
  | @called t started hturn =>
      have hcalled : Deeds P now Matter.acquiring p
          (ConnectionPool.dropWaiter { p with slots := p.slots.collect t }) :=
        (Deeds.one (by decide) (.collect p t)).and (by decide) (.unline _)
      exact .behind hcalled (does_proceed (hcalled.dated hp) started)
  | turnedAway hclosed =>
      exact ⟨(deeds_leave p _).mono (by decide), Lent.error _⟩
  | patient hwaits =>
      exact ⟨.refl p, trivial⟩
  | gaveUp t started =>
      exact ⟨deeds_giveUp p t, Lent.error _⟩
  | again hstep =>
      exact ⟨(hcheckout _ _ _ _ rfl hstep).1, (hcheckout _ _ _ _ rfl hstep).2⟩
  | served hstep =>
      rcases hcheckout _ _ _ _ rfl hstep with ⟨hdeeds, hlent⟩
      exact ⟨hdeeds.and (by decide) (.wait _ _), hlent⟩
  | failed hstep =>
      exact ⟨(hcheckout _ _ _ _ rfl hstep).1, Lent.error _⟩
  | still hunfit =>
      exact ⟨.refl p, trivial⟩

theorem deeds_cancel (p : ConnectionPool) (k : Acquire) (hk : k.Dated P) :
    Deeds P now Matter.leaving p (k.cancel p now) := by
  cases k with
  | queued t started =>
      exact deeds_leave p t
  | checkingOut started k =>
      exact (k.deeds_cancel p hk).mono (by decide)

end Acquire

/-!
## Health checks
-/

namespace Checkup

def DatedAfter (P : Instant -> Prop) : Progress Checkup Bool -> Prop :=
  Progress.Holds (Checkup.Dated P) fun _ => True

theorem does_conclude (p : ConnectionPool) (probeOk : Bool) :
    Does P now Matter.serving (DatedAfter P) p (conclude p now probeOk) :=
  ⟨.one (by decide) (.verdict p _), trivial⟩

theorem does_settleProbe (p : ConnectionPool) {result : Except PoolError Lease}
    (hresult : Lent P result) :
    Does P now Matter.serving (DatedAfter P) p (settleProbe p now result) := by
  unfold settleProbe
  split
  · rename_i l
    exact .behind (.one (by decide) (.giveBack p (hresult l rfl) true)) (does_conclude _ true)
  · exact does_conclude p true
  · exact does_conclude p false

theorem does_probe (hp : p.Dated P) : Does P now Matter.serving (DatedAfter P) p (probe p now) := by
  have hstarted : Does P now Matter.serving (Checkout.DatedAfter P) p (Checkout.start p now) :=
    (Checkout.does_start hp).mono Matter.plain_subset
  unfold probe
  split
  · rename_i q k hstart
    rw [hstart] at hstarted
    exact ⟨hstarted.deeds, hstarted.dated⟩
  · rename_i q result hstart
    rw [hstart] at hstarted
    exact .behind hstarted.deeds (does_settleProbe q hstarted.dated)

theorem does_refill (hp : p.Dated P) :
    Does P now Matter.serving (DatedAfter P) p (refill p now) := by
  unfold refill
  split
  · exact does_probe hp
  · rename_i reserved hreserve
    rcases reserveRefill?_eq_some hreserve with ⟨_, _, rfl⟩
    split
    · rename_i htaken
      have hreserved : Deeds P now Matter.serving p p.addPending := .one (by decide) (.reserve p)
      exact ⟨hreserved.and (by decide) (.take htaken), trivial⟩
    · rw [dropPending_addPending]
      exact does_probe hp
    · rw [dropPending_addPending]
      exact does_probe hp

def replenished (p : ConnectionPool) (now : Instant) (d : Connection) : ConnectionPool :=
  (p.recordCreation.pushIdle ⟨d, now, now⟩).releaseSlot.dropPending

def unreplenished (p : ConnectionPool) : ConnectionPool := p.releaseSlot.dropPending

theorem deeds_replenished (hnow : P now) (p : ConnectionPool) (d : Connection) :
    Deeds P now Matter.serving p (replenished p now d) :=
  (((Deeds.one (by decide) (.open p)).and (by decide) (.store _ hnow)).and (by decide)
    (.release _)).and (by decide) (.vacate _)

theorem deeds_unreplenished (p : ConnectionPool) : Deeds P now Matter.serving p (unreplenished p) :=
  (Deeds.one (by decide) (.release p)).and (by decide) (.vacate _)

theorem does_settleRefill (hp : p.Dated P) (hnow : P now) (result : Except PoolError Connection) :
    Does P now Matter.serving (DatedAfter P) p (settleRefill p now result) := by
  cases result with
  | ok d =>
      have hdeeds := deeds_replenished hnow p d
      exact .behind hdeeds (does_refill (hdeeds.dated hp))
  | error e =>
      have hdeeds : Deeds P now Matter.serving p (unreplenished p) := deeds_unreplenished p
      exact .behind hdeeds (does_probe (hdeeds.dated hp))

theorem does_start (hp : p.Dated P) : Does P now Matter.serving (DatedAfter P) p (start p now) := by
  have hevicted : Deeds P now Matter.serving p (p.takeExpired now).1 := .one (by decide) (.evict p)
  unfold start
  split
  · exact ⟨.refl p, trivial⟩
  · split
    · rename_i q hexpired
      rw [hexpired] at hevicted
      exact .behind hevicted (does_refill (hevicted.dated hp))
    · rename_i q c rest hexpired
      rw [hexpired] at hevicted
      exact ⟨hevicted, trivial⟩

theorem does_step (hp : p.Dated P) (hnow : P now) {k : Checkup} (hk : k.Dated P) (r : Reply) :
    Does P now Matter.serving (DatedAfter P) p (k.step p now r) := by
  have hprobing : forall c q progress, k = probing c ->
      c.step .healthCheck p now r = (q, progress) ->
        Deeds P now Matter.serving p q ∧ Checkout.DatedAfter P progress := by
    rintro c q progress rfl hstep
    have hdoes := Checkout.does_step .healthCheck hp hnow hk r
    rw [hstep] at hdoes
    exact ⟨hdoes.deeds, hdoes.dated⟩
  have honward := onward p now k r
  generalize k.step p now r = after at honward ⊢
  cases honward with
  | next hclosed | still hunfit =>
      exact ⟨.refl p, trivial⟩
  | refill hclosed =>
      exact does_refill hp
  | openAgain hstep =>
      exact ⟨Opening.deeds_of_step (by decide) hstep, trivial⟩
  | @opened _ _ q _ hstep =>
      have hopening : Deeds P now Matter.serving p q := Opening.deeds_of_step (by decide) hstep
      exact .behind hopening (does_settleRefill (hopening.dated hp) hnow _)
  | probeAgain hstep =>
      exact ⟨(hprobing _ _ _ rfl hstep).1, (hprobing _ _ _ rfl hstep).2⟩
  | probed hstep =>
      rcases hprobing _ _ _ rfl hstep with ⟨hdeeds, hlent⟩
      exact .behind hdeeds (does_settleProbe _ hlent)

theorem deeds_cancel (p : ConnectionPool) (k : Checkup) (hk : k.Dated P) :
    Deeds P now Matter.serving p (k.cancel p now) := by
  cases k with
  | evicting c rest =>
      exact .refl p
  | refilling o =>
      exact deeds_unreplenished p
  | probing k =>
      exact (k.deeds_cancel p hk).mono Matter.plain_subset

end Checkup

namespace Maintenance

theorem does_settle {due : Instant} {after : ConnectionPool × Progress Checkup Bool}
    (h : Does P now Matter.serving (Checkup.DatedAfter P) p after) :
    Does P now Matter.serving (Maintenance.Dated P) p (settle due after) := by
  rcases after with ⟨q, k | healthy⟩
  · exact ⟨h.deeds, h.dated⟩
  · exact ⟨h.deeds, trivial⟩

theorem does_step (hp : p.Dated P) (hnow : P now) {m : Maintenance} (hm : m.Dated P)
    (r : Reply) : Does P now Matter.serving (Maintenance.Dated P) p (m.step p now r) := by
  cases m with
  | resting due =>
      cases r with
      | stirred =>
          exact does_settle (Checkup.does_start hp)
      | timedOut | created result | validated ok | closed result =>
          exact ⟨.refl p, trivial⟩
  | checking due k =>
      exact does_settle (Checkup.does_step hp hnow hm r)

theorem deeds_cancel (p : ConnectionPool) (m : Maintenance) (hm : m.Dated P) :
    Deeds P now Matter.serving p (m.cancel p now) := by
  cases m with
  | resting due =>
      exact .refl p
  | checking due k =>
      exact k.deeds_cancel p hm

end Maintenance

/-!
## Setting up and shutting down
-/

namespace WarmUp

theorem deeds_goOn (hnow : P now) (p : ConnectionPool) (opened : List Connection) :
    Deeds P now Matter.settingUp p (goOn p now opened).1 := by
  unfold goOn
  split
  · exact .refl p
  · exact (Deeds.one (by decide) (.furnish p hnow opened)).and (by decide) (.unlock _)

theorem deeds_rollBack (p : ConnectionPool) (e : PoolError) (opened : List Connection) :
    Deeds P now Matter.settingUp p (rollBack p e opened).1 := by
  cases opened with
  | nil =>
      exact (Deeds.one (by decide) (.turn p .uninitialized)).and (by decide) (.unlock _)
  | cons c rest =>
      exact .refl p

theorem deeds_enter (hnow : P now) (p : ConnectionPool) :
    Deeds P now Matter.settingUp p (enter p now).1 := by
  have hbegun : Deeds P now Matter.settingUp p (p.setPhase .initializing) :=
    .one (by decide) (.turn p .initializing)
  unfold enter
  split
  · exact .one (by decide) (.unlock p)
  · exact .one (by decide) (.unlock p)
  · exact hbegun.trans (deeds_goOn hnow _ [])
  · exact hbegun.trans (deeds_goOn hnow _ [])
  · exact hbegun.trans (deeds_goOn hnow _ [])

theorem deeds_start (hnow : P now) (p : ConnectionPool) :
    Deeds P now Matter.settingUp p (start p now).1 := by
  unfold start
  split
  · rename_i lock _
    exact (Deeds.one (by decide) (.lock p lock)).trans (deeds_enter hnow _)
  · exact .one (by decide) (.lock p _)
  · exact .one (by decide) (.lock p _)

theorem deeds_step (hnow : P now) (p : ConnectionPool) (k : WarmUp) (r : Reply) :
    Deeds P now Matter.settingUp p (k.step p now r).1 := by
  have honward := onward p now k r
  generalize k.step p now r = after at honward ⊢
  cases honward with
  | called hturn =>
      exact (Deeds.one (by decide) (.lock p _)).trans (deeds_enter hnow _)
  | patient hwaits | still hunfit =>
      exact .refl p
  | again hstep =>
      exact Opening.deeds_of_step (by decide) hstep
  | another hstep =>
      exact (Opening.deeds_of_step (by decide) hstep).trans (deeds_goOn hnow _ _)
  | failed hstep =>
      exact (Opening.deeds_of_step (by decide) hstep).trans (deeds_rollBack _ _ _)
  | rollBack hclosed =>
      exact deeds_rollBack p _ _

theorem deeds_cancel (p : ConnectionPool) (k : WarmUp) :
    Deeds P now Matter.settingUp p (k.cancel p) := by
  cases k with
  | queued t =>
      exact .one (by decide) (.leaveLock p t)
  | opening opened o | rollingBack c rest e =>
      exact .one (by decide) (.unlock p)

end WarmUp

namespace ShutDown

theorem deeds_closeNext (p : ConnectionPool) (failure : Option BackendError)
    (cs : List Connection) : Deeds P now Matter.shuttingDown p (closeNext p failure cs).1 := by
  cases cs with
  | nil =>
      exact (Deeds.one (by decide) (.turn p .closed)).and (by decide) (.unlock _)
  | cons c rest =>
      exact .refl p

theorem deeds_drain (p : ConnectionPool) : Deeds P now Matter.shuttingDown p (drain p).1 := by
  have hdrained : Deeds P now Matter.shuttingDown p p.closeSlots.takeAllIdle.1 :=
    (Deeds.one (by decide) (.closeSlots p)).and (by decide) (.drain _)
  exact hdrained.trans (deeds_closeNext _ none _)

theorem deeds_enter (p : ConnectionPool) : Deeds P now Matter.shuttingDown p (enter p).1 := by
  have hshut : Deeds P now Matter.shuttingDown p (p.setPhase .shuttingDown) :=
    .one (by decide) (.turn p .shuttingDown)
  unfold enter
  split
  · exact .one (by decide) (.unlock p)
  · exact ((Deeds.one (by decide) (.closeSlots p)).and (by decide) (.turn _ .closed)).and
      (by decide) (.unlock _)
  all_goals
    dsimp only
    split
    · exact hshut.and (by decide) (.tell _)
    · exact hshut.trans (deeds_drain _)

theorem deeds_start (p : ConnectionPool) : Deeds P now Matter.shuttingDown p (start p).1 := by
  unfold start
  split
  · rename_i lock _
    exact (Deeds.one (by decide) (.lock p lock)).trans (deeds_enter _)
  · exact .one (by decide) (.lock p _)
  · exact .one (by decide) (.lock p _)

theorem deeds_step (p : ConnectionPool) (k : ShutDown) (r : Reply) :
    Deeds P now Matter.shuttingDown p (k.step p r).1 := by
  have honward := onward p k r
  generalize k.step p r = after at honward ⊢
  cases honward with
  | called hturn =>
      exact (Deeds.one (by decide) (.lock p _)).trans (deeds_enter _)
  | patient hwaits | still hunfit =>
      exact .refl p
  | drain =>
      exact deeds_drain p
  | closed | failed | timedOut =>
      exact deeds_closeNext p _ _

theorem deeds_cancel (p : ConnectionPool) (k : ShutDown) :
    Deeds P now Matter.shuttingDown p (k.cancel p) := by
  cases k with
  | queued t =>
      exact .one (by decide) (.leaveLock p t)
  | awaitingMaintenance | closing c rest failure =>
      exact .one (by decide) (.unlock p)

end ShutDown

/-!
## All calls
-/

namespace PoolCall

def request : PoolCall -> PoolRequest
  | acquire _ => .acquire
  | tryAcquire _ => .tryAcquire
  | checkup _ => .checkup
  | warmUp _ => .warmUp
  | shutDown _ => .shutDown

def DatedAfter (P : Instant -> Prop) : Progress PoolCall PoolAnswer -> Prop :=
  Progress.Holds (PoolCall.Dated P) (PoolAnswer.Dated P)

section Wrap

variable {σ α : Type} {call : σ -> PoolCall} {answer : α -> PoolAnswer} {matters : List Matter}
  {after : ConnectionPool × Progress σ α}

theorem does_wrap {W : σ -> Prop} {D : α -> Prop}
    (h : Does P now matters (Progress.Holds W D) p after)
    (hcall : forall k, W k -> (call k).Dated P) (hanswer : forall a, D a -> (answer a).Dated P) :
    Does P now matters (DatedAfter P) p (wrap call answer after) := by
  rcases after with ⟨q, k | a⟩
  · exact ⟨h.deeds, hcall k h.dated⟩
  · exact ⟨h.deeds, hanswer a h.dated⟩

theorem does_wrap_undated (h : Deeds P now matters p after.1)
    (hcall : forall k, (call k).Dated P) (hanswer : forall a, (answer a).Dated P) :
    Does P now matters (DatedAfter P) p (wrap call answer after) := by
  rcases after with ⟨q, k | a⟩
  · exact ⟨h, hcall k⟩
  · exact ⟨h, hanswer a⟩

end Wrap

theorem does_start (hp : p.Dated P) (hnow : P now) (request : PoolRequest) :
    Does P now (Matter.of request) (DatedAfter P) p (start p now request) := by
  cases request with
  | acquire =>
      exact does_wrap (Acquire.does_start hp) (fun _ hk => hk) (fun _ ha => ha)
  | tryAcquire =>
      exact does_wrap ((Checkout.does_start hp).mono (by decide)) (fun _ hk => hk) (fun _ ha => ha)
  | checkup =>
      exact does_wrap (Checkup.does_start hp) (fun _ hk => hk) (fun _ ha => ha)
  | warmUp =>
      exact does_wrap_undated (WarmUp.deeds_start hnow p) (fun _ => trivial) (fun _ => trivial)
  | shutDown =>
      exact does_wrap_undated (ShutDown.deeds_start p) (fun _ => trivial) (fun _ => trivial)

theorem does_step (hp : p.Dated P) (hnow : P now) {k : PoolCall} (hk : k.Dated P) (r : Reply) :
    Does P now (Matter.of k.request) (DatedAfter P) p (k.step p now r) := by
  cases k with
  | acquire k =>
      exact does_wrap (Acquire.does_step hp hnow hk r) (fun _ hk => hk) (fun _ ha => ha)
  | tryAcquire k =>
      exact does_wrap (Checkout.does_step .caller hp hnow hk r) (fun _ hk => hk) (fun _ ha => ha)
  | checkup k =>
      exact does_wrap (Checkup.does_step hp hnow hk r) (fun _ hk => hk) (fun _ ha => ha)
  | warmUp k =>
      exact does_wrap_undated (k.deeds_step hnow p r) (fun _ => trivial) (fun _ => trivial)
  | shutDown k =>
      exact does_wrap_undated (k.deeds_step p r) (fun _ => trivial) (fun _ => trivial)

theorem deeds_cancel (p : ConnectionPool) (k : PoolCall) (hk : k.Dated P) :
    Deeds P now (Matter.ofCancel k.request) p (k.cancel p now) := by
  cases k with
  | acquire k =>
      exact k.deeds_cancel p hk
  | tryAcquire k =>
      exact k.deeds_cancel p hk
  | checkup k =>
      exact k.deeds_cancel p hk
  | warmUp k =>
      exact k.deeds_cancel p
  | shutDown k =>
      exact k.deeds_cancel p

end PoolCall
end PoolHealth

import PoolHealth.Pool.Call
import PoolHealth.Pool.Maintenance
import Mathlib.Algebra.BigOperators.Group.Multiset.Basic
import Mathlib.Algebra.GroupWithZero.Nat

/-!
# Tokens

The counters of a pool are right if they agree with what the calls, the borrowers and
the background tasks of the pool hold.  What one of them holds is written down as a
multiset of tokens, and each counter has a weight by which the tokens are added up.

A token goes from one holder to the next, or it becomes another token.  Tokens are never
copied, so that a connection which is named by one token has one owner.
-/

namespace PoolHealth

inductive SlotUse where
  /-- For nothing yet, or for nothing any more. -/
  | bare
  /-- No idle connection was left; a new one is opened when the expired ones are closed. -/
  | stale
  | opening
  /-- A connection is opened that will be idle. -/
  | refilling
deriving DecidableEq

inductive LockUse where
  /-- The holder has not yet looked at the phase, or has settled it. -/
  | entering
  | warming
  /-- The pool is to be shut down, and slots can still be had. -/
  | shutting
  /-- The pool is being shut down, and no slot can be had any more. -/
  | draining
deriving DecidableEq

/-- How far the way of a connection to the backend's `close` has come. -/
inductive Fate where
  | pending
  | passed
  /-- Nobody will hand it to the backend. -/
  | lost
deriving DecidableEq

/-- What somebody can hold of a pool. -/
inductive Token where
  | queued
  | slot (u : SlotUse)
  /-- A slot with the connection on loan under it. -/
  | lent (c : Connection)
  /-- A connection that counts as on loan although its slot was given back. -/
  | forgotten (c : Connection)
  | retired (c : Connection) (f : Fate)
  | raw (c : Connection) (f : Fate)
  | lock (u : LockUse)
  | checking
deriving DecidableEq

namespace Token

/-!
## Weights
-/

@[simp] def inLine : Token -> Nat
  | queued => 1
  | slot _ | lent _ | forgotten _ | retired _ _ | raw _ _ | lock _ | checking => 0

@[simp] def slots : Token -> Nat
  | slot _ | lent _ => 1
  | queued | forgotten _ | retired _ _ | raw _ _ | lock _ | checking => 0

@[simp] def stale : Token -> Nat
  | slot .stale => 1
  | slot .bare | slot .opening | slot .refilling | queued | lent _ | forgotten _ | retired _ _
  | raw _ _ | lock _ | checking => 0

@[simp] def refilling : Token -> Nat
  | slot .refilling => 1
  | slot .bare | slot .opening | slot .stale | queued | lent _ | forgotten _ | retired _ _
  | raw _ _ | lock _ | checking => 0

@[simp] def pending : Token -> Nat
  | slot .opening | slot .refilling => 1
  | slot .bare | slot .stale | queued | lent _ | forgotten _ | retired _ _ | raw _ _
  | lock _ | checking => 0

@[simp] def active : Token -> Nat
  | lent _ | forgotten _ => 1
  | queued | slot _ | retired _ _ | raw _ _ | lock _ | checking => 0

@[simp] def unowned : Token -> Nat
  | forgotten _ => 1
  | queued | slot _ | lent _ | retired _ _ | raw _ _ | lock _ | checking => 0

@[simp] def closures : Token -> Nat
  | retired _ _ => 1
  | queued | slot _ | lent _ | forgotten _ | raw _ _ | lock _ | checking => 0

@[simp] def locks : Token -> Nat
  | lock _ => 1
  | queued | slot _ | lent _ | forgotten _ | retired _ _ | raw _ _ | checking => 0

@[simp] def warming : Token -> Nat
  | lock .warming => 1
  | lock .entering | lock .shutting | lock .draining | queued | slot _ | lent _ | forgotten _
  | retired _ _ | raw _ _ | checking => 0

@[simp] def shutting : Token -> Nat
  | lock .shutting | lock .draining => 1
  | lock .entering | lock .warming | queued | slot _ | lent _ | forgotten _
  | retired _ _ | raw _ _ | checking => 0

@[simp] def draining : Token -> Nat
  | lock .draining => 1
  | lock .entering | lock .warming | lock .shutting | queued | slot _ | lent _ | forgotten _
  | retired _ _ | raw _ _ | checking => 0

/-- Whatever can only be had while the pool is ready, or comes of it. -/
@[simp] def guests : Token -> Nat
  | queued | slot _ | lent _ | checking => 1
  | forgotten _ | retired _ _ | raw _ _ | lock _ => 0

@[simp] def names (c : Connection) : Token -> Nat
  | lent d | forgotten d | retired d _ | raw d _ => if d = c then 1 else 0
  | queued | slot _ | lock _ | checking => 0

def tally (w : Token -> Nat) (held : Multiset Token) : Nat := (held.map w).sum

@[simp] theorem tally_zero (w : Token -> Nat) : tally w 0 = 0 := rfl

@[simp] theorem tally_singleton (w : Token -> Nat) (t : Token) : tally w {t} = w t := by
  simp [tally]

@[simp] theorem tally_add (w : Token -> Nat) (A B : Multiset Token) :
    tally w (A + B) = tally w A + tally w B := by
  simp [tally]

@[simp] theorem tally_cons (w : Token -> Nat) (t : Token) (A : Multiset Token) :
    tally w (t ::ₘ A) = w t + tally w A := by
  simp [tally]

theorem tally_add_weights (v w : Token -> Nat) (held : Multiset Token) :
    tally (fun t => v t + w t) held = tally v held + tally w held := by
  simp [tally, Multiset.sum_map_add]

theorem tally_le_of_le {v w : Token -> Nat} (h : forall t, v t ≤ w t)
    (held : Multiset Token) : tally v held ≤ tally w held := by
  induction held using Multiset.induction with
  | empty =>
      exact Nat.le_refl 0
  | cons t rest ih =>
      rw [← Multiset.singleton_add, tally_add, tally_add, tally_singleton, tally_singleton]
      exact Nat.add_le_add (h t) ih

theorem tally_eq_zero_iff {w : Token -> Nat} {held : Multiset Token} :
    tally w held = 0 <-> forall t, t ∈ held -> w t = 0 := by
  induction held using Multiset.induction with
  | empty =>
      simp
  | cons t rest ih =>
      rw [← Multiset.singleton_add, tally_add, tally_singleton, Nat.add_eq_zero_iff, ih]
      simp

theorem exists_mem_of_tally_pos {w : Token -> Nat} {held : Multiset Token}
    (h : 0 < tally w held) : exists t, t ∈ held ∧ 0 < w t := by
  by_contra hnone
  have hzero : tally w held = 0 := by
    rw [tally_eq_zero_iff]
    intro t ht
    by_contra hw
    exact hnone ⟨t, ht, Nat.pos_of_ne_zero hw⟩
  omega

/-!
## One token for each of several connections
-/

def each (f : Connection -> Token) (cs : List Connection) : Multiset Token :=
  (cs.map f : List Token)

@[simp] theorem each_nil (f : Connection -> Token) : each f [] = 0 := rfl

@[simp] theorem each_cons (f : Connection -> Token) (c : Connection) (cs : List Connection) :
    each f (c :: cs) = {f c} + each f cs := rfl

theorem each_append (f : Connection -> Token) (cs ds : List Connection) :
    each f (cs ++ ds) = each f cs + each f ds := by
  simp [each]

theorem mem_each {f : Connection -> Token} {cs : List Connection} {t : Token} :
    t ∈ each f cs <-> exists c, c ∈ cs ∧ f c = t := by
  simp [each]

theorem tally_each (w : Token -> Nat) (f : Connection -> Token) (cs : List Connection) :
    tally w (each f cs) = (cs.map fun c => w (f c)).sum := by
  simp [tally, each, Function.comp_def]

/-- Connections that were counted as closed and are still to be handed to the backend. -/
def doomed (cs : List Connection) : Multiset Token := each (fun c => retired c .pending) cs

def lost (cs : List Connection) : Multiset Token := each (fun c => retired c .lost) cs

def raws (cs : List Connection) : Multiset Token := each (fun c => raw c .pending) cs

def scrapped (cs : List Connection) : Multiset Token := each (fun c => raw c .lost) cs

@[simp] theorem tally_doomed (w : Token -> Nat) (cs : List Connection) :
    tally w (doomed cs) = (cs.map fun c => w (retired c .pending)).sum := tally_each _ _ _

@[simp] theorem tally_lost (w : Token -> Nat) (cs : List Connection) :
    tally w (lost cs) = (cs.map fun c => w (retired c .lost)).sum := tally_each _ _ _

@[simp] theorem tally_raws (w : Token -> Nat) (cs : List Connection) :
    tally w (raws cs) = (cs.map fun c => w (raw c .pending)).sum := tally_each _ _ _

@[simp] theorem tally_scrapped (w : Token -> Nat) (cs : List Connection) :
    tally w (scrapped cs) = (cs.map fun c => w (raw c .lost)).sum := tally_each _ _ _

@[simp] theorem sum_map_ite_eq_count (c : Connection) (cs : List Connection) :
    (cs.map fun d => if d = c then 1 else 0).sum = cs.count c := by
  induction cs with
  | nil =>
      rfl
  | cons d rest ih =>
      rw [List.map_cons, List.sum_cons, ih, List.count_cons, Nat.add_comm]
      by_cases h : d = c
      · simp [h]
      · simp [h]

end Token

/-!
## What calls hold

The stake of a call is what it goes on with when its wait is over.  A connection that
the backend closes meanwhile does not belong to it, but counts as handed over.  A call
may be busy with a checkout.
-/

namespace Checkout

def stake : Checkout -> Multiset Token
  | closingExpired _ rest (some e) => {.lent e.connection} + Token.doomed rest
  | closingExpired _ rest none => {.slot .stale} + Token.doomed rest
  | validating l => {.lent l.connection}
  | closingInvalid _ => {.slot .bare}
  | opening _ => {.slot .opening}

def underway : Checkout -> Multiset Token
  | closingExpired c _ _ | closingInvalid c => {.retired c .passed}
  | validating _ | opening _ => 0

/-- What nobody holds any more when the checkout is dropped. -/
def remains : Checkout -> Multiset Token
  | closingExpired _ rest (some e) => {.forgotten e.connection} + Token.lost rest
  | closingExpired _ rest none => Token.lost rest
  | validating _ | closingInvalid _ | opening _ => 0

end Checkout

namespace Acquire

def stake : Acquire -> Multiset Token
  | queued _ _ => {.queued}
  | checkingOut _ k => k.stake

def underway : Acquire -> Multiset Token
  | queued _ _ => 0
  | checkingOut _ k => k.underway

def remains : Acquire -> Multiset Token
  | queued _ _ => 0
  | checkingOut _ k => k.remains

def checkout? : Acquire -> Option Checkout
  | queued _ _ => none
  | checkingOut _ k => some k

end Acquire

namespace Checkup

def stake : Checkup -> Multiset Token
  | evicting _ rest => {.checking} + Token.doomed rest
  | refilling _ => {.checking} + {.slot .refilling}
  | probing k => {.checking} + k.stake

def underway : Checkup -> Multiset Token
  | evicting c _ => {.retired c .passed}
  | refilling _ => 0
  | probing k => k.underway

def remains : Checkup -> Multiset Token
  | evicting _ rest => Token.lost rest
  | refilling _ => 0
  | probing k => k.remains

def checkout? : Checkup -> Option Checkout
  | evicting _ _ | refilling _ => none
  | probing k => some k

end Checkup

namespace WarmUp

def stake : WarmUp -> Multiset Token
  | queued _ => 0
  | opening opened _ => {.lock .warming} + Token.raws opened
  | rollingBack _ rest _ => {.lock .warming} + Token.raws rest

def underway : WarmUp -> Multiset Token
  | rollingBack c _ _ => {.raw c .passed}
  | queued _ | opening _ _ => 0

def remains : WarmUp -> Multiset Token
  | queued _ => 0
  | opening opened _ => Token.scrapped opened
  | rollingBack _ rest _ => Token.scrapped rest

end WarmUp

namespace ShutDown

def stake : ShutDown -> Multiset Token
  | queued _ => 0
  | awaitingMaintenance => {.lock .shutting}
  | closing _ rest _ => {.lock .draining} + Token.doomed rest

def underway : ShutDown -> Multiset Token
  | closing c _ _ => {.retired c .passed}
  | queued _ | awaitingMaintenance => 0

def remains : ShutDown -> Multiset Token
  | queued _ | awaitingMaintenance => 0
  | closing _ rest _ => Token.lost rest

end ShutDown

namespace PoolCall

def stake : PoolCall -> Multiset Token
  | acquire k => k.stake
  | tryAcquire k => k.stake
  | checkup k => k.stake
  | warmUp k => k.stake
  | shutDown k => k.stake

def underway : PoolCall -> Multiset Token
  | acquire k => k.underway
  | tryAcquire k => k.underway
  | checkup k => k.underway
  | warmUp k => k.underway
  | shutDown k => k.underway

def remains : PoolCall -> Multiset Token
  | acquire k => k.remains
  | tryAcquire k => k.remains
  | checkup k => k.remains
  | warmUp k => k.remains
  | shutDown k => k.remains

def checkout? : PoolCall -> Option Checkout
  | acquire k => k.checkout?
  | tryAcquire k => some k
  | checkup k => k.checkout?
  | warmUp _ | shutDown _ => none

end PoolCall

namespace Maintenance

def stake : Maintenance -> Multiset Token
  | resting _ => 0
  | checking _ k => k.stake

def underway : Maintenance -> Multiset Token
  | resting _ => 0
  | checking _ k => k.underway

def remains : Maintenance -> Multiset Token
  | resting _ => 0
  | checking _ k => k.remains

def checkout? : Maintenance -> Option Checkout
  | resting _ => none
  | checking _ k => k.checkout?

end Maintenance

end PoolHealth

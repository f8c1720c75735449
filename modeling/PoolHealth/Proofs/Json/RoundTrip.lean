import PoolHealth.Config.Pool
import PoolHealth.Health.CycleResult
import PoolHealth.Pool.Stats
import PoolHealth.Proofs.Json.Members

/-!
# Records survive being written and read

A configuration, the statistics of a pool and a health summary are read from the text
that they are written as, and from every variant of it: the members of the outer object
may come in any order, members of other names may stand among them, and there may be
white space around each token.
-/

namespace PoolHealth
namespace Json

/-!
## Variants of a text
-/

/-- A text of an object that has the members of the value in any order and any members of
other names among them; how its texts are spelled and where it has white space is free. -/
inductive Variant : Json -> String -> Prop where
  | intro {members : List (String × Json)} {others all : List (Option String × Document)}
      {text : String}
      (hothers : forall m, m ∈ others -> exists key, m.1 = some key ∧ key ∉ members.map Prod.fst)
      (hperm : all.Perm (memberDocuments members ++ others))
      (hspells : (Document.object all).Spells text) : Variant (.object members) text

/-- Each variant has a document, from which the slots of the record are filled. -/
theorem Variant.slots? {members : List (String × Json)} {text : String}
    (h : Variant (.object members) text) (names : List String)
    (hnames : members.map Prod.fst = names) (hnodup : names.Nodup) :
    exists d, Document.parse? text = some d ∧
      d.slots? false names = some (members.map fun m => some m.2.document) := by
  subst hnames
  cases h with
  | @intro _ others all _ hothers hperm hspells =>
      refine ⟨.object all, Document.parse?_of_spells hspells, ?_⟩
      let fields := members.map fun m => (m.1, m.2.document)
      have hkeys : fields.map Prod.fst = members.map Prod.fst := by
        rw [List.map_map]
        rfl
      have hvalues : (fields.map fun f => some f.2) = members.map fun m => some m.2.document := by
        rw [List.map_map]
        rfl
      have hdocuments : (fields.map fun f => (some f.1, f.2)) = memberDocuments members := by
        rw [List.map_map, memberDocuments_eq_map]
        rfl
      rw [← hkeys, ← hvalues]
      rw [← hkeys] at hnodup hothers
      rw [← hdocuments] at hperm
      exact Document.slots?_of_perm hnodup hothers hperm

theorem variant_of_render {members others all : List (String × Json)}
    (hothers : forall m, m ∈ others -> m.1 ∉ members.map Prod.fst)
    (hperm : all.Perm (members ++ others)) (hwhole : WholeMembers all) :
    Variant (.object members) (Json.object all).render := by
  have hall : (Json.object all).Whole := hwhole
  have hnames : forall m, m ∈ memberDocuments others ->
      exists key, m.1 = some key ∧ key ∉ members.map Prod.fst := by
    intro m hm
    rw [memberDocuments_eq_map] at hm
    rcases List.mem_map.mp hm with ⟨other, hother, rfl⟩
    exact ⟨other.1, rfl, hothers other hother⟩
  have hdocuments : (memberDocuments all).Perm
      (memberDocuments members ++ memberDocuments others) := by
    simp only [memberDocuments_eq_map, ← List.map_append]
    exact hperm.map _
  exact Variant.intro hnames hdocuments (spells_render hall)

theorem variant_render {members : List (String × Json)} (hwhole : WholeMembers members) :
    Variant (.object members) (Json.object members).render := by
  have hnone : forall m, m ∈ ([] : List (String × Json)) -> m.1 ∉ members.map Prod.fst := by
    intro m hm
    cases hm
  have hperm : members.Perm (members ++ []) := by rw [List.append_nil]
  exact variant_of_render hnone hperm hwhole

theorem whole_nat {n : Nat} (h : n < UInt64.size) : (nat n).Whole := by
  have hn : n < 2 ^ 64 := h
  constructor <;> omega

theorem whole_ofDuration (d : Duration) : (ofDuration d).Whole := by
  have hbounds := d.parts_lt
  exact ⟨whole_nat hbounds.1, whole_nat (Nat.lt_trans hbounds.2 (by decide)), trivial⟩

theorem whole_and_count?_nat {n : Nat} (h : n < UInt64.size) :
    (nat n).Whole ∧ (nat n).document.count? = some n :=
  ⟨whole_nat h, Document.count?_nat h⟩

def decode {α : Type} (read : Document -> Option α) (text : String) : Option α :=
  (Document.parse? text).bind read

/-- The record is read from the text that it is written as and from all its variants. -/
def ReadsBack {α : Type} (write : α -> Json) (read : Document -> Option α) (a : α) : Prop :=
  (write a).Variant (write a).render ∧
    forall text, (write a).Variant text -> decode read text = some a

end Json

open Json Json.Document

/-!
## The records
-/

theorem PoolConfig.whole_toJson (c : PoolConfig) : c.toJson.Whole := by
  have hword : forall w : UInt32, w.toNat < UInt64.size :=
    fun w => Nat.lt_trans w.toNat_lt_size (by decide)
  exact ⟨trivial, whole_nat c.minSize.toNat_lt_size, whole_nat c.maxSize.toNat_lt_size,
    whole_ofDuration _, whole_ofDuration _, whole_ofDuration _, whole_ofDuration _,
    whole_ofDuration _, whole_nat (hword _), whole_ofDuration _, trivial⟩

theorem PoolConfig.readsBack (c : PoolConfig) : ReadsBack toJson ofDocument? c := by
  refine ⟨variant_render c.whole_toJson, fun text h => ?_⟩
  rcases h.slots? fieldNames rfl (by decide) with ⟨d, hparse, hslots⟩
  simp only [decode, hparse, Option.bind_some, ofDocument?, hslots, List.map_cons, List.map_nil,
    required?, word64?_nat, word32?_nat, duration?_ofDuration]
  rfl

def PoolStats.counters (s : PoolStats) : List Nat :=
  [s.active, s.idle, s.total, s.waiting, s.errors, s.creations, s.closures, s.hits, s.misses,
    s.exhaustions, s.peak]

theorem PoolStats.readsBack {s : PoolStats}
    (hcounters : forall n, n ∈ s.counters -> n < UInt64.size)
    (hcheck : s.lastHealthCheck = none) : ReadsBack toJson ofDocument? s := by
  have hwords : forall n, n ∈ s.counters -> (nat n).Whole ∧ (nat n).document.count? = some n :=
    fun n hn => whole_and_count?_nat (hcounters n hn)
  simp only [counters, List.forall_mem_cons] at hwords
  rcases hwords with
    ⟨active, idle, total, waiting, errors, creations, closures, hits, misses, exhaustions,
      peak, _⟩
  have hnull : (Json.ofOption (fun t : Timestamp => .text t.render) s.lastHealthCheck) = .null := by
    rw [hcheck]
    rfl
  have hwhole : s.toJson.Whole := by
    refine ⟨trivial, active.1, idle.1, total.1, waiting.1, errors.1, creations.1, closures.1,
      hits.1, misses.1, exhaustions.1, peak.1, whole_ofDuration _, ?_, trivial⟩
    rw [hnull]
    trivial
  refine ⟨variant_render hwhole, fun text h => ?_⟩
  rcases h.slots? fieldNames rfl (by decide) with ⟨d, hparse, hslots⟩
  simp only [decode, hparse, Option.bind_some, ofDocument?, hslots, List.map_cons, List.map_nil,
    required?, absentOr?, hnull, active.2, idle.2, total.2, waiting.2, errors.2, creations.2,
    closures.2, hits.2, misses.2, exhaustions.2, peak.2, duration?_ofDuration]
  cases s
  cases hcheck
  rfl

def HealthSummary.counters (s : HealthSummary) : List Nat :=
  [s.healthy, s.degraded, s.unhealthy, s.unknown]

theorem HealthSummary.readsBack {s : HealthSummary}
    (hcounters : forall n, n ∈ s.counters -> n < UInt64.size) :
    ReadsBack toJson ofDocument? s := by
  have hwords : forall n, n ∈ s.counters -> (nat n).Whole ∧ (nat n).document.count? = some n :=
    fun n hn => whole_and_count?_nat (hcounters n hn)
  simp only [counters, List.forall_mem_cons] at hwords
  rcases hwords with ⟨healthy, degraded, unhealthy, unknown, _⟩
  refine ⟨variant_render ⟨healthy.1, degraded.1, unhealthy.1, unknown.1, trivial⟩,
    fun text h => ?_⟩
  rcases h.slots? ["healthy", "degraded", "unhealthy", "unknown"] rfl (by decide) with
    ⟨d, hparse, hslots⟩
  simp only [decode, hparse, Option.bind_some, ofDocument?, hslots, List.map_cons, List.map_nil,
    required?, healthy.2, degraded.2, unhealthy.2, unknown.2]
  rfl

/-- Every record that fits into its words is read from each variant of its text, and a
configuration that is read so passes or fails validation as before. -/
theorem records_read_back :
    (forall c : PoolConfig, ReadsBack PoolConfig.toJson PoolConfig.ofDocument? c ∧
      forall text, c.toJson.Variant text ->
        (decode PoolConfig.ofDocument? text).map PoolConfig.validate = some c.validate) ∧
    (forall s : PoolStats, (forall n, n ∈ s.counters -> n < UInt64.size) ->
      s.lastHealthCheck = none -> ReadsBack PoolStats.toJson PoolStats.ofDocument? s) ∧
    (forall s : HealthSummary, (forall n, n ∈ s.counters -> n < UInt64.size) ->
      ReadsBack HealthSummary.toJson HealthSummary.ofDocument? s) := by
  refine ⟨fun c => ⟨c.readsBack, fun text h => ?_⟩, fun s => PoolStats.readsBack,
    fun s => HealthSummary.readsBack⟩
  rw [c.readsBack.2 text h]
  rfl

theorem records_read_back_rearranged :
    ReadsBack PoolConfig.toJson PoolConfig.ofDocument? (.named "gr\u00f6\u00dfe\n") ∧
    (decode PoolConfig.ofDocument? (PoolConfig.named " ").toJson.render).map
      PoolConfig.validate = some (PoolConfig.named " ").validate ∧
    ReadsBack PoolStats.toJson PoolStats.ofDocument?
      { PoolStats.fresh "p" with peak := 18446744073709551615 } ∧
    decode HealthSummary.ofDocument? (Json.object [("note", .text "\""), ("unknown", .nat 4),
      ("unhealthy", .nat 3), ("degraded", .nat 2), ("healthy", .nat 1)]).render =
        some ⟨1, 2, 3, 4⟩ := by
  refine ⟨(records_read_back.1 _).1,
    (records_read_back.1 _).2 _ (variant_render (PoolConfig.whole_toJson _)),
    records_read_back.2.1 _ (by decide) rfl,
    (records_read_back.2.2 _ (by decide)).2 _ ?_⟩
  have hothers : forall m, m ∈ [("note", Json.text "\"")] ->
      m.1 ∉ ["healthy", "degraded", "unhealthy", "unknown"] := by
    intro m hm
    rw [List.mem_singleton.mp hm]
    decide
  refine variant_of_render hothers ?_ ?_
  · let fields := [("healthy", nat 1), ("degraded", nat 2), ("unhealthy", nat 3),
      ("unknown", nat 4)]
    exact ((List.reverse_perm fields).cons ("note", .text "\"")).trans
      (List.perm_append_singleton _ fields).symm
  · exact ⟨trivial, whole_nat (by decide), whole_nat (by decide), whole_nat (by decide),
      whole_nat (by decide), trivial⟩

/-- Blanks, an escape in a name, and a member of another name. -/
example : decode HealthSummary.ofDocument?
    " \x7b\"unknown\" : 4,\n\"note\":null, \"\\u0068ealthy\":1,\"degraded\":2,\"unhealthy\":3\x7d" =
      some ⟨1, 2, 3, 4⟩ := by
  cbv

end PoolHealth

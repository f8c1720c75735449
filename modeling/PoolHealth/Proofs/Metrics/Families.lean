import PoolHealth.Metrics.Registry
import PoolHealth.Proofs.Keyed

/-!
# What a registry holds

A registry is filled by one measurement after another.  What it holds afterwards depends on the
measurements alone: the first one of a name founds the family, and the first one with a fingerprint
founds the series.  Every later one that the family takes is added to the series with its
fingerprint, and all others are dropped.
-/

namespace PoolHealth

namespace MetricRecord

def labelNames (r : MetricRecord) : List String := r.labels.map (·.1)

def labelValues (r : MetricRecord) : List String := r.labels.map (·.2)

def mark (r : MetricRecord) : UInt64 := MetricRegistry.fingerprint r.labelValues

structure IsValid (r : MetricRecord) : Prop where
  acceptable : MetricRegistry.isAcceptable r.name r.labelNames = true
  unreserved : r.kind = .observation -> MetricRegistry.bucketLabel ∉ r.labelNames

theorem nodup_of_allDistinct {names : List String}
    (h : MetricRegistry.allDistinct names = true) : names.Nodup := by
  induction names with
  | nil =>
      exact List.nodup_nil
  | cons name rest ih =>
      unfold MetricRegistry.allDistinct at h
      rw [Bool.and_eq_true, Bool.not_eq_true', ← Bool.not_eq_true, List.contains_iff_mem] at h
      exact List.nodup_cons.mpr ⟨h.1, ih h.2⟩

theorem IsValid.nodup {r : MetricRecord} (h : r.IsValid) : r.labelNames.Nodup := by
  have hacceptable := h.acceptable
  unfold MetricRegistry.isAcceptable at hacceptable
  rw [Bool.and_eq_true] at hacceptable
  exact nodup_of_allDistinct hacceptable.2

/-- The measurement has the name, the kind and the number of labels of `f`. -/
def FitsIn (f r : MetricRecord) : Prop :=
  r.name = f.name ∧ r.kind = f.kind ∧ r.labels.length = f.labels.length

instance (f r : MetricRecord) : Decidable (FitsIn f r) :=
  inferInstanceAs (Decidable (_ ∧ _ ∧ _))

end MetricRecord

def Series.mark (s : Series) : UInt64 := MetricRegistry.fingerprint s.values

namespace MetricRegistry

open MetricRecord

variable {kind : MetricKind} {name : String} {r f : MetricRecord} {rs : List MetricRecord}

/-!
## The series of one family
-/

def summed (kind : MetricKind) (rs : List MetricRecord) : SeriesData :=
  rs.foldl (fun data r => data.add r.value) (SeriesData.fresh kind)

theorem summed_concat (kind : MetricKind) (rs : List MetricRecord) (r : MetricRecord) :
    summed kind (rs ++ [r]) = (summed kind rs).add r.value :=
  List.foldl_concat _ _ _ _

def seriesOf (kind : MetricKind) (rs : List MetricRecord) : List Series :=
  rs.foldl (fun ss r => addToSeries kind r.labelValues r.value ss) []

theorem seriesOf_concat (kind : MetricKind) (rs : List MetricRecord) (r : MetricRecord) :
    seriesOf kind (rs ++ [r]) = addToSeries kind r.labelValues r.value (seriesOf kind rs) :=
  List.foldl_concat _ _ _ _

theorem addToSeries_eq (kind : MetricKind) (r : MetricRecord) (ss : List Series) :
    addToSeries kind r.labelValues r.value ss =
      Keyed.upsert Series.mark r.mark ⟨r.labelValues, (SeriesData.fresh kind).add r.value⟩
        (fun s => { s with data := s.data.add r.value }) ss := by
  induction ss with
  | nil =>
      rfl
  | cons s rest ih =>
      unfold addToSeries Keyed.upsert
      rw [ih]
      rfl

theorem nodup_seriesOf (kind : MetricKind) (rs : List MetricRecord) :
    ((seriesOf kind rs).map Series.mark).Nodup := by
  induction rs using List.reverseRecOn with
  | nil =>
      exact List.nodup_nil
  | append_singleton rs r ih =>
      rw [seriesOf_concat, addToSeries_eq]
      exact Keyed.nodup_upsert rfl (fun _ => rfl) ih

/-- The first measurement with a fingerprint founds the series, and all that have it are added. -/
theorem find?_seriesOf (kind : MetricKind) (rs : List MetricRecord) (mark : UInt64) :
    (seriesOf kind rs).find? (fun s => decide (s.mark = mark)) =
      (rs.find? fun r => decide (r.mark = mark)).map fun l =>
        ⟨l.labelValues, summed kind (rs.filter fun r => decide (r.mark = mark))⟩ := by
  induction rs using List.reverseRecOn with
  | nil =>
      rfl
  | append_singleton rs r ih =>
      have hnew : Series.mark ⟨r.labelValues, (SeriesData.fresh kind).add r.value⟩
          = r.mark := rfl
      have hchange (s : Series) : Series.mark { s with data := s.data.add r.value } = s.mark := rfl
      rw [seriesOf_concat, addToSeries_eq, Keyed.find?_upsert hnew hchange, ih, List.find?_append,
        List.filter_append]
      by_cases hmark : r.mark = mark
      · rw [if_pos hmark, List.filter_singleton, decide_eq_true hmark, cond_true, summed_concat]
        cases hfound : rs.find? fun r => decide (r.mark = mark) with
        | some l =>
            rfl
        | none =>
            have hnone : rs.filter (fun r => decide (r.mark = mark)) = [] := by
              rw [List.filter_eq_nil_iff]
              exact List.find?_eq_none.mp hfound
            rw [hnone]
            simp [hmark, summed]
      · rw [if_neg hmark]
        simp [hmark]

/-!
## The families
-/

def ofRecords (rs : List MetricRecord) : MetricRegistry := rs.foldl record empty

theorem ofRecords_concat (rs : List MetricRecord) (r : MetricRecord) :
    ofRecords (rs ++ [r]) = (ofRecords rs).record r :=
  List.foldl_concat _ _ _ _

/-- The measurement that founds the family of a name. -/
def founder? (rs : List MetricRecord) (name : String) : Option MetricRecord :=
  rs.find? fun r => decide (r.name = name)

theorem name_of_founder? (h : founder? rs name = some f) : f.name = name := by
  have hname := List.find?_some h
  exact of_decide_eq_true hname

theorem mem_of_founder? (h : founder? rs name = some f) : f ∈ rs := List.mem_of_find?_eq_some h

def familyOf (f : MetricRecord) (taken : List MetricRecord) : MetricFamily :=
  ⟨f.name, f.kind, f.labelNames, seriesOf f.kind taken⟩

theorem name_addToFamily (f : MetricFamily) (r : MetricRecord) :
    (addToFamily f r).name = f.name := by
  unfold addToFamily
  split
  · rfl
  · rfl

theorem addToFamily_familyOf (hvalid : f.IsValid) (hname : r.name = f.name)
    (taken : List MetricRecord) :
    addToFamily (familyOf f taken) r =
      familyOf f (if FitsIn f r then taken ++ [r] else taken) := by
  have haccepts : accepts (familyOf f taken) r.kind r.labels.length = true <-> FitsIn f r := by
    have hlength : f.labelNames.length = f.labels.length := List.length_map _
    unfold accepts FitsIn familyOf
    simp only [Bool.and_eq_true, beq_iff_eq, hlength]
    constructor
    · rintro ⟨⟨hkind, hcount⟩, _⟩
      exact ⟨hname, hkind.symm, hcount.symm⟩
    · rintro ⟨_, hkind, hcount⟩
      refine ⟨⟨hkind.symm, hcount.symm⟩, ?_⟩
      -- A distribution that is valid does not have the label of the bucket bounds.
      cases hobserved : decide (r.kind = .observation) with
      | false =>
          have hne : r.kind ≠ .observation := of_decide_eq_false hobserved
          simp [hne]
      | true =>
          have hnot := hvalid.unreserved (hkind.symm.trans (of_decide_eq_true hobserved))
          simp [hnot]
  unfold addToFamily
  by_cases hfits : FitsIn f r
  · rw [if_pos (haccepts.mpr hfits), if_pos hfits]
    unfold familyOf
    rw [seriesOf_concat, ← hfits.2.1]
    rfl
  · rw [if_neg (fun h => hfits (haccepts.mp h)), if_neg hfits]

theorem recordIn_eq (hvalid : r.IsValid) (fs : List MetricFamily) :
    recordIn r fs =
      Keyed.upsert MetricFamily.name r.name (familyOf r [r]) (addToFamily · r) fs := by
  induction fs with
  | nil =>
      have hfounded := addToFamily_familyOf hvalid rfl []
      rw [if_pos ⟨rfl, rfl, rfl⟩] at hfounded
      unfold Keyed.upsert
      rw [← List.nil_append [r], ← hfounded]
      exact if_pos hvalid.acceptable
  | cons f rest ih =>
      unfold recordIn Keyed.upsert
      rw [ih]

theorem nodup_families (hvalid : forall r, r ∈ rs -> r.IsValid) :
    ((ofRecords rs).families.map MetricFamily.name).Nodup := by
  induction rs using List.reverseRecOn with
  | nil =>
      exact List.nodup_nil
  | append_singleton rs r ih =>
      rw [List.forall_mem_append, List.forall_mem_singleton] at hvalid
      rw [ofRecords_concat]
      show ((recordIn r (ofRecords rs).families).map MetricFamily.name).Nodup
      rw [recordIn_eq hvalid.2]
      exact Keyed.nodup_upsert rfl (fun f => name_addToFamily f r) (ih hvalid.1)

/-- The family of a name is made of the measurements that fit in with the first one. -/
theorem find?_families (hvalid : forall r, r ∈ rs -> r.IsValid) (name : String) :
    (ofRecords rs).families.find? (fun f => decide (f.name = name)) =
      (founder? rs name).map fun f => familyOf f (rs.filter fun r => decide (FitsIn f r)) := by
  induction rs using List.reverseRecOn with
  | nil =>
      rfl
  | append_singleton rs r ih =>
      rw [List.forall_mem_append, List.forall_mem_singleton] at hvalid
      have hfound := ih hvalid.1
      rw [ofRecords_concat]
      show (recordIn r (ofRecords rs).families).find? (fun f => decide (f.name = name)) = _
      have hnew : MetricFamily.name (familyOf r [r]) = r.name := rfl
      rw [recordIn_eq hvalid.2, Keyed.find?_upsert hnew (fun f => name_addToFamily f r), hfound]
      unfold founder?
      rw [List.find?_append]
      cases hfounder : rs.find? fun r => decide (r.name = name) with
      | some f =>
          have hname : f.name = name := name_of_founder? hfounder
          rw [Option.some_or, Option.map_some, Option.map_some, Option.map_some,
            Option.getD_some, List.filter_append, List.filter_singleton]
          by_cases hr : r.name = name
          · rw [if_pos hr, addToFamily_familyOf (hvalid.1 f (mem_of_founder? hfounder))
              (hr.trans hname.symm)]
            by_cases hfits : FitsIn f r
            · simp [hfits]
            · simp [hfits]
          · have hnot : ¬FitsIn f r := by
              intro hfits
              exact hr (hfits.1.trans hname)
            rw [if_neg hr]
            simp [hnot]
      | none =>
          by_cases hr : r.name = name
          · have hnone : rs.filter (fun r' => decide (FitsIn r r')) = [] := by
              rw [List.filter_eq_nil_iff]
              intro r' hr' hfits
              have hother := List.find?_eq_none.mp hfounder r' hr'
              rw [decide_eq_true_eq] at hfits hother
              exact hother (hfits.1.trans hr)
            have hself : FitsIn r r := ⟨rfl, rfl, rfl⟩
            rw [if_pos hr]
            simp [hr, hnone, hself]
          · rw [if_neg hr]
            simp [hr]

end MetricRegistry
end PoolHealth

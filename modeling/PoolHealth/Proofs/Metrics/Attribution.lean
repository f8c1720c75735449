import PoolHealth.Proofs.Metrics.Families

/-!
# Which measurements a sample is made of

A sample is written with the label names of the measurement that founded its family and with the
label values of the one that founded its series.  The label names of the other measurements are
never looked at; only their number is.  So a sample stands for the measurements that are filed under
its labels, and these need not be the ones that have these labels.  They are the same if and only if
every measurement that its family takes is filed under its own labels.
-/

namespace PoolHealth
namespace MetricRegistry

open MetricRecord

variable {g : MetricRegistry} {name : String} {labels : Labels} {data : SeriesData}
variable {r f l : MetricRecord} {rs : List MetricRecord} {mark : UInt64}

/-!
## What is written
-/

def Shows (g : MetricRegistry) (name : String) (labels : Labels) (data : SeriesData) : Prop :=
  exists f, f ∈ g.sortedFamilies ∧ f.name = name ∧
    exists written, (written, data) ∈ sortedSeries f ∧ written.Perm labels

theorem exists_join_of_mem {s : String} {parts : List String} (h : s ∈ parts) :
    exists before after, String.join parts = before ++ s ++ after := by
  rcases List.append_of_mem h with ⟨front, back, rfl⟩
  exact ⟨String.join front, String.join back, by
    rw [String.join_append, String.join_cons, String.append_assoc]⟩

theorem exists_familyText (f : MetricFamily) (h : f.series.isEmpty = false) :
    exists heading, familyText f =
      heading ++ String.join ((sortedSeries f).map fun s => seriesText f.name s.1 s.2) := by
  unfold familyText
  rw [h, if_neg Bool.false_ne_true]
  exact ⟨_, rfl⟩

theorem Shows.exists_render (h : g.Shows name labels data) :
    exists written before after,
      written.Perm labels ∧ g.render = before ++ seriesText name written data ++ after := by
  rcases h with ⟨f, hf, rfl, written, hwritten, hperm⟩
  have hsome : f.series.isEmpty = false := by
    rw [Bool.eq_false_iff]
    intro hempty
    rw [List.isEmpty_iff] at hempty
    unfold sortedSeries at hwritten
    rw [hempty] at hwritten
    simp at hwritten
  have hline : seriesText f.name written data ∈
      (sortedSeries f).map fun s => seriesText f.name s.1 s.2 :=
    List.mem_map.mpr ⟨(written, data), hwritten, rfl⟩
  rcases exists_familyText f hsome with ⟨heading, hfamily⟩
  rcases exists_join_of_mem hline with ⟨before, after, hseries⟩
  rcases exists_join_of_mem (List.mem_map_of_mem (f := familyText) hf) with ⟨front, back, hrender⟩
  unfold render
  rw [hrender, hfamily, hseries]
  refine ⟨written, front ++ heading ++ before, after ++ back, hperm, ?_⟩
  simp only [String.append_assoc]

theorem mem_sortedSeries {family : MetricFamily} :
    (exists written, (written, data) ∈ sortedSeries family ∧ written.Perm labels) <->
      exists s, s ∈ family.series ∧
        (family.labelNames.zip s.values).Perm labels ∧ s.data = data := by
  unfold sortedSeries
  constructor
  · rintro ⟨written, hwritten, hperm⟩
    rcases List.mem_map.mp ((List.mergeSort_perm _ _).mem_iff.mp hwritten) with ⟨s, hs, heq⟩
    cases heq
    exact ⟨s, hs, (List.mergeSort_perm _ _).symm.trans hperm, rfl⟩
  · rintro ⟨s, hs, hperm, rfl⟩
    refine ⟨_, (List.mergeSort_perm _ _).mem_iff.mpr (List.mem_map.mpr ⟨s, hs, rfl⟩), ?_⟩
    exact (List.mergeSort_perm _ _).trans hperm

theorem shows_iff_of_founder? (hvalid : forall r, r ∈ rs -> r.IsValid)
    (hfounder : founder? rs name = some f) :
    (ofRecords rs).Shows name labels data <->
      exists s, s ∈ seriesOf f.kind (rs.filter fun r => decide (FitsIn f r)) ∧
        (f.labelNames.zip s.values).Perm labels ∧ s.data = data := by
  have hfamily := find?_families hvalid name
  rw [hfounder, Option.map_some] at hfamily
  unfold Shows sortedFamilies
  constructor
  · rintro ⟨family, hmem, rfl, hshown⟩
    rw [(List.mergeSort_perm _ _).mem_iff,
      ← Keyed.find?_eq_some_iff_mem (nodup_families hvalid), hfamily] at hmem
    cases hmem
    exact mem_sortedSeries.mp hshown
  · intro hseries
    refine ⟨_, (List.mergeSort_perm _ _).mem_iff.mpr (List.mem_of_find?_eq_some hfamily),
      name_of_founder? hfounder, mem_sortedSeries.mpr hseries⟩

theorem not_shows_of_no_founder (hvalid : forall r, r ∈ rs -> r.IsValid)
    (hfounder : founder? rs name = none) : ¬(ofRecords rs).Shows name labels data := by
  have hfamily := find?_families hvalid name
  rw [hfounder, Option.map_none, List.find?_eq_none] at hfamily
  rintro ⟨family, hmem, hname, _⟩
  exact hfamily family ((List.mergeSort_perm _ _).mem_iff.mp hmem) (decide_eq_true hname)

/-!
## Where measurements are filed
-/

def taken (rs : List MetricRecord) (f : MetricRecord) : List MetricRecord :=
  rs.filter fun r => decide (FitsIn f r)

/-- The measurement that founds the series with a fingerprint. -/
def leader? (rs : List MetricRecord) (f : MetricRecord) (mark : UInt64) : Option MetricRecord :=
  (taken rs f).find? fun r => decide (r.mark = mark)

/-- The labels under which the series is shown that was founded by `l`. -/
def heading (f l : MetricRecord) : Labels := f.labelNames.zip l.labelValues

/-- The measurements of which the sample with these labels is made. -/
def filed (rs : List MetricRecord) (f : MetricRecord) (labels : Labels) : List MetricRecord :=
  (taken rs f).filter fun r =>
    (leader? rs f r.mark).any fun l => decide ((heading f l).Perm labels)

/-- The measurements of the kind of `f` that have just the label names of `f`, and these labels. -/
def owed (rs : List MetricRecord) (f : MetricRecord) (labels : Labels) : List MetricRecord :=
  rs.filter fun r =>
    decide (r.name = f.name ∧ r.kind = f.kind ∧ r.labelNames.Perm f.labelNames
      ∧ r.labels.Perm labels)

theorem mem_taken : r ∈ taken rs f <-> r ∈ rs ∧ FitsIn f r := by
  unfold taken
  rw [List.mem_filter, decide_eq_true_eq]

theorem leader?_spec (h : leader? rs f mark = some l) : l ∈ taken rs f ∧ l.mark = mark := by
  have hmark := List.find?_some h
  exact ⟨List.mem_of_find?_eq_some h, of_decide_eq_true hmark⟩

theorem exists_leader (h : r ∈ taken rs f) : exists l, leader? rs f r.mark = some l := by
  rw [← Option.isSome_iff_exists]
  exact List.find?_isSome.mpr ⟨r, h, decide_eq_true rfl⟩

theorem mem_filed : r ∈ filed rs f labels <->
    r ∈ taken rs f ∧ exists l, leader? rs f r.mark = some l ∧ (heading f l).Perm labels := by
  unfold filed
  rw [List.mem_filter, Option.any_eq_true]
  simp only [decide_eq_true_eq]

theorem mem_owed : r ∈ owed rs f labels <->
    r ∈ rs ∧ r.name = f.name ∧ r.kind = f.kind ∧ r.labelNames.Perm f.labelNames
      ∧ r.labels.Perm labels := by
  unfold owed
  rw [List.mem_filter, decide_eq_true_eq]

theorem values_eq_of_perm {names values others : List String} (hnodup : names.Nodup)
    (hlength : values.length = names.length) (hlength' : others.length = names.length)
    (hperm : (names.zip values).Perm (names.zip others)) : values = others := by
  have hkeys : ((names.zip others).map fun e => e.1).Nodup := by
    rw [List.map_fst_zip (Nat.le_of_eq hlength'.symm)]
    exact hnodup
  apply List.ext_getElem (hlength.trans hlength'.symm)
  intro i hi hi'
  have hname : i < names.length := hlength ▸ hi
  have hfirst : (names[i], values[i]) ∈ names.zip others := by
    rw [← hperm.mem_iff, ← List.getElem_zip (h := by rw [List.length_zip]; omega)]
    exact List.getElem_mem _
  have hsecond : (names[i], others[i]) ∈ names.zip others := by
    rw [← List.getElem_zip (h := by rw [List.length_zip]; omega)]
    exact List.getElem_mem _
  have hlookup := Keyed.lookup_eq_some_of_mem hkeys hfirst
  rw [Keyed.lookup_eq_some_of_mem hkeys hsecond] at hlookup
  exact (Option.some.inj hlookup).symm

theorem length_labelValues (h : l ∈ taken rs f) :
    l.labelValues.length = f.labelNames.length := by
  unfold labelValues labelNames
  rw [List.length_map, List.length_map]
  exact (mem_taken.mp h).2.2.2

theorem filed_eq (hnodup : f.labelNames.Nodup) (hleader : leader? rs f mark = some l)
    (hperm : (heading f l).Perm labels) :
    filed rs f labels = (taken rs f).filter fun r => decide (r.mark = mark) := by
  apply List.filter_congr
  intro r hr
  rw [Bool.eq_iff_iff, Option.any_eq_true, decide_eq_true_eq]
  simp only [decide_eq_true_eq]
  rcases leader?_spec hleader with ⟨hl, rfl⟩
  constructor
  · rintro ⟨k, hk, hsame⟩
    rcases leader?_spec hk with ⟨hmem, hmark⟩
    have hvalues : k.labelValues = l.labelValues :=
      values_eq_of_perm hnodup (length_labelValues hmem) (length_labelValues hl)
        (hsame.trans hperm.symm)
    rw [← hmark]
    exact congrArg fingerprint hvalues
  · intro hmark
    rw [hmark]
    exact ⟨l, hleader, hperm⟩

/-- A sample is shown for each heading under which something is filed, and it sums that up. -/
theorem shows_iff (hvalid : forall r, r ∈ rs -> r.IsValid) (hfounder : founder? rs name = some f) :
    (ofRecords rs).Shows name labels data <->
      filed rs f labels ≠ [] ∧ data = summed f.kind (filed rs f labels) := by
  have hnodup := (hvalid f (mem_of_founder? hfounder)).nodup
  rw [shows_iff_of_founder? hvalid hfounder]
  constructor
  · rintro ⟨s, hs, hperm, rfl⟩
    rw [← Keyed.find?_eq_some_iff_mem (nodup_seriesOf _ _), find?_seriesOf,
      Option.map_eq_some_iff] at hs
    rcases hs with ⟨l, hleader, hseries⟩
    have hvalues : l.labelValues = s.values := congrArg Series.values hseries
    have hdata := congrArg Series.data hseries
    rw [← hvalues] at hperm
    have hfiled := filed_eq hnodup hleader hperm
    rw [hfiled]
    refine ⟨?_, hdata.symm⟩
    rcases leader?_spec hleader with ⟨hl, hmark⟩
    exact List.ne_nil_of_mem (List.mem_filter.mpr ⟨hl, decide_eq_true hmark⟩)
  · rintro ⟨hsome, rfl⟩
    rcases List.exists_mem_of_ne_nil _ hsome with ⟨r, hr⟩
    rcases mem_filed.mp hr with ⟨_, l, hleader, hperm⟩
    have hseries := find?_seriesOf f.kind (taken rs f) r.mark
    have hleader' : (taken rs f).find? (fun l => decide (l.mark = r.mark)) = some l := hleader
    rw [hleader', Option.map_some] at hseries
    exact ⟨_, List.mem_of_find?_eq_some hseries, hperm,
      congrArg (summed f.kind) (filed_eq hnodup hleader hperm).symm⟩

/-!
## Whose measurements they are
-/

/-- A measurement whose labels have other names than the first ones, or that is of another kind,
is owed to no sample.  Nothing but the names of the labels, in their order, and the fingerprints of
their values can keep the others from where they belong. -/
theorem filed_eq_owed_iff :
    (forall labels, filed rs f labels = owed rs f labels) <->
      forall r, r ∈ taken rs f ->
        exists l, leader? rs f r.mark = some l ∧ (heading f l).Perm r.labels := by
  constructor
  · intro hall r hr
    rcases exists_leader hr with ⟨l, hleader⟩
    have hfiled : r ∈ filed rs f (heading f l) := mem_filed.mpr ⟨hr, l, hleader, .refl _⟩
    rw [hall, mem_owed] at hfiled
    exact ⟨l, hleader, hfiled.2.2.2.2.symm⟩
  · intro hown labels
    unfold filed taken owed
    rw [List.filter_filter]
    apply List.filter_congr
    intro r hr
    rw [Bool.eq_iff_iff, Bool.and_eq_true, Option.any_eq_true, decide_eq_true_eq,
      decide_eq_true_eq]
    simp only [decide_eq_true_eq]
    constructor
    · rintro ⟨⟨l, hleader, hperm⟩, hfits⟩
      rcases hown r (mem_taken.mpr ⟨hr, hfits⟩) with ⟨k, hleader', hsame⟩
      rw [hleader] at hleader'
      cases hleader'
      have hnames := hsame.map fun e => e.1
      unfold heading at hnames
      rw [List.map_fst_zip (Nat.le_of_eq
        (length_labelValues (leader?_spec hleader).1).symm)] at hnames
      exact ⟨hfits.1, hfits.2.1, hnames.symm, hsame.symm.trans hperm⟩
    · rintro ⟨hname, hkind, hnames, hperm⟩
      have hlength := hnames.length_eq
      unfold labelNames at hlength
      rw [List.length_map, List.length_map] at hlength
      have hfits : FitsIn f r := ⟨hname, hkind, hlength⟩
      rcases hown r (mem_taken.mpr ⟨hr, hfits⟩) with ⟨l, hleader, hsame⟩
      exact ⟨⟨l, hleader, hsame.trans hperm⟩, hfits⟩

/-- Nothing goes astray if the labels always stand in the same order and if values with the same
fingerprint are the same. -/
theorem filed_eq_owed_of_aligned
    (hnames : forall r, r ∈ taken rs f -> r.labelNames = f.labelNames)
    (hvalues : forall r l, r ∈ taken rs f -> l ∈ taken rs f -> l.mark = r.mark ->
      l.labelValues = r.labelValues)
    (labels : Labels) : filed rs f labels = owed rs f labels := by
  refine filed_eq_owed_iff.mpr ?_ labels
  intro r hr
  rcases exists_leader hr with ⟨l, hleader⟩
  rcases leader?_spec hleader with ⟨hl, hmark⟩
  refine ⟨l, hleader, ?_⟩
  unfold heading
  rw [hvalues r l hr hl hmark, ← hnames r hr]
  exact .of_eq (List.zip_map' .. |>.trans (List.map_id _))

theorem ofRecords_concat_of_not_fitsIn {before after : List MetricRecord}
    (hvalid : forall x, x ∈ before ++ r :: after -> x.IsValid)
    (hfounder : founder? (before ++ r :: after) r.name = some f) (hnot : ¬FitsIn f r) :
    ofRecords (before ++ [r]) = ofRecords before := by
  rw [List.forall_mem_append, List.forall_mem_cons] at hvalid
  -- The family was founded by a measurement that came before this one.
  have hearlier : founder? before r.name = some f := by
    unfold founder? at hfounder ⊢
    rw [List.find?_append] at hfounder
    cases hbefore : before.find? fun r' => decide (r'.name = r.name) with
    | some f' =>
        rw [hbefore, Option.some_or] at hfounder
        exact hfounder
    | none =>
        rw [hbefore, Option.none_or] at hfounder
        have hself : r = f := by simpa using hfounder
        subst hself
        exact absurd ⟨rfl, rfl, rfl⟩ hnot
  have hfamily := find?_families hvalid.1 r.name
  rw [hearlier, Option.map_some] at hfamily
  have hsame : addToFamily (familyOf f (before.filter fun r => decide (FitsIn f r))) r =
      familyOf f (before.filter fun r => decide (FitsIn f r)) := by
    rw [addToFamily_familyOf (hvalid.1 f (mem_of_founder? hearlier))
      (name_of_founder? hearlier).symm, if_neg hnot]
  have hkept : Keyed.upsert MetricFamily.name r.name (familyOf r [r]) (addToFamily · r)
      (ofRecords before).families = (ofRecords before).families :=
    Keyed.upsert_of_find? hfamily hsame
  rw [ofRecords_concat]
  unfold record
  rw [recordIn_eq hvalid.2.1, hkept]

/-- What the samples of the family stand for that `f` has founded. -/
structure Attribution (rs : List MetricRecord) (f : MetricRecord) : Prop where
  shows : forall labels data, (ofRecords rs).Shows f.name labels data <->
    filed rs f labels ≠ [] ∧ data = summed f.kind (filed rs f labels)
  written : forall labels data, (ofRecords rs).Shows f.name labels data ->
    exists written before after, written.Perm labels ∧
      (ofRecords rs).render = before ++ seriesText f.name written data ++ after
  dropped : forall before r after, rs = before ++ r :: after -> r.name = f.name ->
    r.kind ≠ f.kind ∨ r.labels.length ≠ f.labels.length ->
      ofRecords (before ++ [r]) = ofRecords before
  own_iff : (forall labels, filed rs f labels = owed rs f labels) <->
    forall r, r ∈ rs -> FitsIn f r ->
      exists l, leader? rs f r.mark = some l ∧ (heading f l).Perm r.labels

/-- Of measurements with valid names, the first one of a name says of what kind the others have to
be, and with how many labels; those that are not are dropped.  Each of the others is part of the
sample with the label names of the first one and with the values of the first one that has its
fingerprint.  The samples stand for the measurements with just their labels if and only if these
are, for each measurement that is not dropped, the labels that it has. -/
theorem samples_attributed (hvalid : forall r, r ∈ rs -> r.IsValid) (name : String) :
    (founder? rs name = none -> forall labels data, ¬(ofRecords rs).Shows name labels data) ∧
      forall f, founder? rs name = some f -> f.name = name ∧ Attribution rs f := by
  constructor
  · intro hfounder labels data
    exact not_shows_of_no_founder hvalid hfounder
  · intro f hfounder
    have hname := name_of_founder? hfounder
    subst hname
    refine ⟨rfl, ?_, ?_, ?_, ?_⟩
    · intro labels data
      exact shows_iff hvalid hfounder
    · intro labels data hshows
      exact hshows.exists_render
    · rintro before r after rfl hname hother
      rw [← hname] at hfounder
      refine ofRecords_concat_of_not_fitsIn hvalid hfounder ?_
      rintro ⟨_, hkind, hlength⟩
      rcases hother with hne | hne
      · exact hne hkind
      · exact hne hlength
    · rw [filed_eq_owed_iff]
      simp only [mem_taken, and_imp]

def twoPools : List MetricRecord :=
  [.increment "m" [("pool", "a")], .increment "m" [("pool", "b")],
    .increment "m" [("pool", "a")]]

theorem mem_twoPools (h : r ∈ twoPools) :
    r = .increment "m" [("pool", "a")] ∨ r = .increment "m" [("pool", "b")] := by
  simpa [twoPools, or_comm, or_assoc] using h

theorem isValid_twoPools : forall r, r ∈ twoPools -> r.IsValid := by
  intro r hr
  rcases mem_twoPools hr with rfl | rfl
  · exact ⟨by decide +kernel, by rintro ⟨⟩⟩
  · exact ⟨by decide +kernel, by rintro ⟨⟩⟩

/-- The labels of two pools are kept apart. -/
theorem samples_attributed_to_two_pools :
    (forall r, r ∈ twoPools -> r.IsValid) ∧
      exists f, founder? twoPools "m" = some f ∧
        (forall labels, filed twoPools f labels = owed twoPools f labels) ∧
        (ofRecords twoPools).Shows "m" [("pool", "a")] (summed .counter [f, f]) := by
  rcases (samples_attributed isValid_twoPools "m").2 _ rfl with ⟨_, hattribution⟩
  refine ⟨isValid_twoPools, _, rfl, ?_, ?_⟩
  · refine hattribution.own_iff.mpr ?_
    intro r hr _
    rcases mem_twoPools hr with rfl | rfl
    · exact ⟨_, rfl, by decide⟩
    · exact ⟨_, rfl, by decide⟩
  · exact (hattribution.shows _ _).mpr ⟨by decide, rfl⟩

/-- Two measurements that agree in nothing but the number of their labels. -/
def strangers : List MetricRecord :=
  [.increment "m" [("pool", "a")], .increment "m" [("shard", "7")]]

theorem isValid_strangers : forall r, r ∈ strangers -> r.IsValid := by
  intro r hr
  have hcases : r = .increment "m" [("pool", "a")] ∨ r = .increment "m" [("shard", "7")] := by
    simpa [strangers] using hr
  rcases hcases with rfl | rfl
  · exact ⟨by decide +kernel, by rintro ⟨⟩⟩
  · exact ⟨by decide +kernel, by rintro ⟨⟩⟩

/-- The second measurement has a label with another name, and yet it changes what is shown: there
is a sample with the label name of the first one and the label value of the second one, although
no measurement has this label. -/
theorem sample_of_foreign_labels :
    (forall r, r ∈ strangers -> r.IsValid) ∧
      exists f r, strangers = [f, r] ∧ founder? strangers "m" = some f ∧
        ¬r.labelNames.Perm f.labelNames ∧
        (exists data, (ofRecords strangers).Shows "m" [("pool", "7")] data) ∧
        (forall data, ¬(ofRecords [f]).Shows "m" [("pool", "7")] data) ∧
        owed strangers f [("pool", "7")] = [] := by
  refine ⟨isValid_strangers, _, _, rfl, rfl, by decide, ?_, ?_, by decide⟩
  · refine ⟨_, (shows_iff isValid_strangers rfl).mpr ⟨?_, rfl⟩⟩
    apply List.ne_nil_of_mem
    exact mem_filed.mpr ⟨mem_taken.mpr ⟨List.mem_cons_of_mem _ List.mem_cons_self, by decide⟩,
      _, rfl, by decide⟩
  · intro data hshows
    have hvalid : forall r, r ∈ [MetricRecord.increment "m" [("pool", "a")]] -> r.IsValid := by
      intro r hr
      exact isValid_strangers r (List.mem_cons.mpr (Or.inl (List.mem_singleton.mp hr)))
    exact ((shows_iff hvalid rfl).mp hshows).1 (by decide)

end MetricRegistry
end PoolHealth

import PoolHealth.Proofs.Config.Variables

/-!
# Variables of one pool and of another

The name of a pool and the field of a setting stand side by side in a variable, joined by an
underscore that either of them may contain.  They can be told apart all the same, since no field
ends in an underscore and another field.  So pools share their variables only if their names have
the same normal form, and what other variables say is nothing to a pool.
-/

namespace PoolHealth

namespace Env

/-!
## Keys
-/

/-- No field ends in an underscore and another one. -/
def Apart (fields : List String) : Prop :=
  forall f, f ∈ fields -> forall g, g ∈ fields -> ¬('_' :: f.toList) <:+ g.toList

instance (fields : List String) : Decidable (Apart fields) :=
  inferInstanceAs (Decidable (forall f, f ∈ fields ->
    forall g, g ∈ fields -> ¬('_' :: f.toList) <:+ g.toList))

variable {base a b f g : String} {fields : List String}

theorem toList_scopedKey (base scope field : String) :
    (scopedKey base scope field).toList =
      (base.toList ++ ['_']) ++ ((normalize scope).toList ++ '_' :: field.toList) := by
  unfold scopedKey
  simp only [String.toList_append, List.append_assoc]
  rfl

/-- No field begins within another one. -/
theorem eq_of_field_eq_append {more : List Char} (hapart : Apart fields) (hf : f ∈ fields)
    (hg : g ∈ fields) (h : '_' :: f.toList = more ++ '_' :: g.toList) : more = [] ∧ f = g := by
  cases more with
  | nil =>
      injection h with _ hchars
      exact ⟨rfl, String.toList_injective hchars⟩
  | cons c rest =>
      injection h with _ hchars
      exact absurd ⟨rest, hchars.symm⟩ (hapart g hg f hf)

theorem eq_of_append_field {xs ys : List Char} (hapart : Apart fields) (hf : f ∈ fields)
    (hg : g ∈ fields) (h : xs ++ '_' :: f.toList = ys ++ '_' :: g.toList) : xs = ys ∧ f = g := by
  rcases List.append_eq_append_iff.mp h with ⟨more, hys, hfield⟩ | ⟨more, hxs, hfield⟩
  · rcases eq_of_field_eq_append hapart hf hg hfield with ⟨rfl, heq⟩
    rw [List.append_nil] at hys
    exact ⟨hys.symm, heq⟩
  · rcases eq_of_field_eq_append hapart hg hf hfield with ⟨rfl, heq⟩
    rw [List.append_nil] at hxs
    exact ⟨hxs, heq.symm⟩

theorem scopedKey_eq_iff (hapart : Apart fields) (hf : f ∈ fields) (hg : g ∈ fields) :
    scopedKey base a f = scopedKey base b g <-> f = g ∧ normalize a = normalize b := by
  constructor
  · intro h
    have hchars := congrArg String.toList h
    rw [toList_scopedKey, toList_scopedKey] at hchars
    rcases eq_of_append_field hapart hf hg (List.append_cancel_left hchars) with ⟨hname, hfield⟩
    exact ⟨hfield, String.toList_injective hname⟩
  · rintro ⟨rfl, hname⟩
    unfold scopedKey
    rw [hname]

/-!
## Variables that do not matter
-/

variable {env env' : Env} {key : String}

theorem text?_congr (h : env.value? key = env'.value? key) : env.text? key = env'.text? key := by
  unfold text?
  rw [h]

theorem parsed_congr {α : Type} (h : env.value? key = env'.value? key) (name : String)
    (reader : List Char -> Except Text.NumeralError α) :
    env.parsed key name reader = env'.parsed key name reader := by
  unfold parsed
  rw [text?_congr h]

theorem Kind.read_congr (k : Kind) (h : env.value? key = env'.value? key) :
    k.read env key = k.read env' key := by
  cases k with
  | bool =>
      show env.bool key = env'.bool key
      unfold Env.bool
      rw [text?_congr h]
  | word64 | word32 | size | float =>
      exact parsed_congr h _ _

theorem applyAll_congr {α : Type} {keyOf : String -> String} (settings : List (Setting α)) (c : α)
    (h : forall s, s ∈ settings -> env.value? (keyOf s.field) = env'.value? (keyOf s.field)) :
    env.applyAll keyOf c (settings.map Setting.override) =
      env'.applyAll keyOf c (settings.map Setting.override) := by
  induction settings generalizing c with
  | nil =>
      rfl
  | cons s rest ih =>
      rcases List.forall_mem_cons.mp h with ⟨hfirst, hrest⟩
      have happly : s.override.apply env (keyOf s.override.field) c =
          s.override.apply env' (keyOf s.override.field) c := by
        unfold Override.apply Setting.override
        dsimp only
        rw [s.kind.read_congr hfirst]
      rw [List.map_cons, applyAll, applyAll, happly]
      cases s.override.apply env' (keyOf s.override.field) c with
      | ok c' =>
          exact ih c' hrest
      | error e =>
          rfl

/-- Two environments in which no variable differs but those with these keys. -/
def DifferOnlyAt (keys : List String) (env env' : Env) : Prop :=
  forall key, key ∉ keys -> env.value? key = env'.value? key

end Env

/-!
## Pools
-/

namespace PoolConfig

def fields : List String := overrides.map (·.field)

def keys (name : String) : List String := fields.map (envKey name)

theorem apart_fields : Env.Apart fields := by decide +kernel

theorem ofEnv_congr {env env' : Env} {name : String}
    (h : forall key, key ∈ keys name -> env.value? key = env'.value? key) :
    ofEnv env name = ofEnv env' name := by
  apply Env.applyAll_congr settings (named name)
  intro s hs
  apply h
  have hfield : s.field ∈ fields := by
    show s.field ∈ overrides.map (·.field)
    rw [overrides_eq, List.map_map]
    exact List.mem_map.mpr ⟨s, hs, rfl⟩
  exact List.mem_map.mpr ⟨s.field, hfield, rfl⟩

/-- Two pools have a variable in common only if it is for the same field and their names have the
same normal form.  Otherwise, whatever becomes of the variables of one of them, the other one is
configured as before. -/
theorem variables_not_shared (a b : String) :
    (forall f g, f ∈ fields -> g ∈ fields ->
      (envKey a f = envKey b g <-> f = g ∧ Env.normalize a = Env.normalize b)) ∧
    (Env.normalize a ≠ Env.normalize b ->
      forall env env', Env.DifferOnlyAt (keys a) env env' ->
        ofEnv env b = ofEnv env' b ∧ validatedOfEnv env b = validatedOfEnv env' b) := by
  have hkeys (f g : String) (hf : f ∈ fields) (hg : g ∈ fields) :
      envKey a f = envKey b g <-> f = g ∧ Env.normalize a = Env.normalize b :=
    Env.scopedKey_eq_iff apart_fields hf hg
  refine ⟨hkeys, ?_⟩
  intro hnames env env' hdiffer
  have hsame : ofEnv env b = ofEnv env' b := by
    apply ofEnv_congr
    intro key hkey
    apply hdiffer
    intro hshared
    rcases List.mem_map.mp hkey with ⟨g, hg, rfl⟩
    rcases List.mem_map.mp hshared with ⟨f, hf, hequal⟩
    exact hnames ((hkeys f g hf hg).mp hequal).2
  refine ⟨hsame, ?_⟩
  unfold validatedOfEnv
  rw [hsame]

def roomForCache : Env := ⟨[("RESERVOIR_POOL_CACHE_MAX_SIZE", .text "42")]⟩

/-- A pool whose name begins like a variable of another pool is not taken for it, and one whose
name differs in signs and in case is. -/
theorem variables_not_shared_with_longer_name :
    Env.normalize "cache" ≠ Env.normalize "cache-max" ∧
      Env.DifferOnlyAt (keys "cache") ⟨[]⟩ roomForCache ∧
      ofEnv roomForCache "cache-max" = .ok (named "cache-max") ∧
      ofEnv roomForCache "cache" = .ok { named "cache" with maxSize := 42 } ∧
      envKey "tws-http" "MAX_SIZE" = envKey "TWS_Http" "MAX_SIZE" := by
  have hnames : Env.normalize "cache" ≠ Env.normalize "cache-max" := by decide +kernel
  have hdiffer : Env.DifferOnlyAt (keys "cache") ⟨[]⟩ roomForCache := by
    intro key hkey
    have hother : key ≠ "RESERVOIR_POOL_CACHE_MAX_SIZE" := by
      rintro rfl
      exact hkey (by decide +kernel)
    show none = _
    rw [Env.value?, roomForCache, List.lookup_cons, beq_false_of_ne hother]
    rfl
  have hunchanged := ((variables_not_shared "cache" "cache-max").2 hnames _ _ hdiffer).1
  refine ⟨hnames, hdiffer, hunchanged.symm, ?_, ?_⟩
  · rfl
  · exact ((variables_not_shared "tws-http" "TWS_Http").1 "MAX_SIZE" "MAX_SIZE" (by decide +kernel)
      (by decide +kernel)).mpr ⟨rfl, by decide +kernel⟩

end PoolConfig
end PoolHealth

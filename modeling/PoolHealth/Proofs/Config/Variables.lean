import PoolHealth.Config.Health
import PoolHealth.Config.Pool

/-!
# Variables that are set

A variable that is set to a text is never overlooked: it is read, or it is named in an error.
Bytes that are no text are overlooked, as if the variable was not set.
-/

namespace PoolHealth

namespace Text

variable {limit acc n : Nat} {cs : List Char}

/-- A whole number as it may be written: digits, with a plus sign in front of them or not. -/
def Denotes (cs : List Char) (n : Nat) : Prop :=
  exists digits, (cs = digits ∨ cs = '+' :: digits) ∧ digits ≠ [] ∧
    (forall c, c ∈ digits -> c.isDigit = true) ∧ digitsValue digits = n

theorem le_foldl_digits (acc : Nat) (cs : List Char) :
    acc ≤ cs.foldl (fun acc c => acc * 10 + (c.toNat - '0'.toNat)) acc := by
  induction cs generalizing acc with
  | nil =>
      exact Nat.le_refl _
  | cons c rest ih =>
      have hstep : acc ≤ acc * 10 + (c.toNat - '0'.toNat) := by omega
      exact Nat.le_trans hstep (ih _)

theorem readDigits_eq_ok_iff (hacc : acc < limit) :
    readDigits limit acc cs = .ok n <->
      (forall c, c ∈ cs -> c.isDigit = true) ∧
        cs.foldl (fun acc c => acc * 10 + (c.toNat - '0'.toNat)) acc = n ∧ n < limit := by
  induction cs generalizing acc with
  | nil =>
      constructor
      · intro h
        cases h
        exact ⟨List.forall_mem_nil _, rfl, hacc⟩
      · rintro ⟨_, rfl, _⟩
        rfl
  | cons c rest ih =>
      rw [readDigits, digitValue?, List.forall_mem_cons, List.foldl_cons]
      by_cases hdigit : c.isDigit = true
      · rw [if_pos hdigit]
        dsimp only
        by_cases hless : acc * 10 + (c.toNat - '0'.toNat) < limit
        · rw [if_pos hless, ih hless]
          simp [hdigit]
        · rw [if_neg hless]
          have hle := le_foldl_digits (acc * 10 + (c.toNat - '0'.toNat)) rest
          constructor
          · rintro ⟨⟩
          · rintro ⟨_, hvalue, hn⟩
            omega
      · rw [if_neg hdigit]
        constructor
        · rintro ⟨⟩
        · rintro ⟨⟨hc, _⟩, _⟩
          contradiction

theorem readNatural_eq_ok_iff (cs : List Char) (hlimit : 0 < limit) :
    readNatural limit cs = .ok n <-> Denotes cs n ∧ n < limit := by
  have hread (ds : List Char) (hsome : ds ≠ []) :
      readDigits limit 0 ds = .ok n <->
        (ds ≠ [] ∧ (forall c, c ∈ ds -> c.isDigit = true) ∧ digitsValue ds = n) ∧ n < limit := by
    rw [readDigits_eq_ok_iff hlimit]
    simp only [digitsValue, and_assoc, hsome, ne_eq, not_false_eq_true, true_and]
  have hsign : ¬Char.isDigit '+' = true := by decide
  unfold readNatural
  split
  · constructor
    · rintro ⟨⟩
    · rintro ⟨⟨digits, hdigits | hdigits, hsome, _⟩, _⟩
      · exact absurd hdigits.symm hsome
      · cases hdigits
  · rename_i c rest
    rw [hread _ (List.cons_ne_nil _ _)]
    constructor
    · rintro ⟨hdigits, hn⟩
      exact ⟨⟨c :: rest, Or.inr rfl, hdigits⟩, hn⟩
    · rintro ⟨⟨digits, rfl | hdigits, hsome, hall, hvalue⟩, hn⟩
      · exact absurd (hall '+' List.mem_cons_self) hsign
      · cases hdigits
        exact ⟨⟨hsome, hall, hvalue⟩, hn⟩
  · rename_i hnone hplus
    rw [hread _ hnone]
    constructor
    · rintro ⟨hdigits, hn⟩
      exact ⟨⟨cs, Or.inl rfl, hdigits⟩, hn⟩
    · rintro ⟨⟨digits, rfl | hdigits, hsome, hall, hvalue⟩, hn⟩
      · exact ⟨⟨hsome, hall, hvalue⟩, hn⟩
      · rcases List.exists_cons_of_ne_nil hsome with ⟨c, rest, rfl⟩
        exact absurd hdigits (hplus c rest)

theorem toOption_readNatural_iff {α : Type} {ofNat : Nat -> α} {toNat : α -> Nat} {a : α}
    (hlt : forall a, toNat a < limit) (hback : forall a, ofNat (toNat a) = a)
    (hto : forall n, n < limit -> toNat (ofNat n) = n) :
    ((readNatural limit cs).map ofNat).toOption = some a <-> Denotes cs (toNat a) := by
  have hlimit : 0 < limit := Nat.lt_of_le_of_lt (Nat.zero_le _) (hlt a)
  have hiff := readNatural_eq_ok_iff (n := toNat a) cs hlimit
  constructor
  · intro h
    cases hread : readNatural limit cs with
    | error e =>
        rw [hread] at h
        cases h
    | ok n =>
        rw [hread] at h
        cases h
        have hn := ((readNatural_eq_ok_iff cs hlimit).mp hread)
        rw [hto n hn.2]
        exact hn.1
  · intro h
    rw [hiff.mpr ⟨h, hlt a⟩]
    exact congrArg some (hback a)

end Text

namespace Env

/-!
## Readers
-/

inductive Kind where
  | bool
  | word64
  | word32
  | size
  | float

namespace Kind

abbrev Value : Kind -> Type
  | bool => Bool
  | word64 | size => UInt64
  | word32 => UInt32
  | float => Float

def parse : (k : Kind) -> String -> Option k.Value
  | bool, s => truthOf? s
  | word64, s | size, s => (readWord64 (Text.trimChars s.toList)).toOption
  | word32, s => (readWord32 (Text.trimChars s.toList)).toOption
  | float, s => (Text.readFloat (Text.trimChars s.toList)).toOption

def read : (k : Kind) -> Env -> String -> Except ConfigError (Option k.Value)
  | bool => Env.bool
  | word64 => Env.word64
  | word32 => Env.word32
  | size => Env.size
  | float => Env.float

end Kind

variable {env : Env} {key : String} {k : Kind}

def Misspelt (env : Env) (k : Kind) (key : String) : Prop :=
  exists s, env.text? key = some s ∧ k.parse s = none

inductive Reading (env : Env) (k : Kind) (key : String) :
    Except ConfigError (Option k.Value) -> Prop where
  | unset (h : env.text? key = none) : Reading env k key (.ok none)
  | value {s : String} {v : k.Value} (h : env.text? key = some s) (hparse : k.parse s = some v) :
      Reading env k key (.ok (some v))
  | refused (message : String) (h : Misspelt env k key) :
      Reading env k key (.error (.invalidVariable key message))

theorem reading_parsed (name : String) (reader : List Char -> Except Text.NumeralError k.Value)
    (hparse : forall s, k.parse s = (reader (Text.trimChars s.toList)).toOption) :
    Reading env k key (env.parsed key name reader) := by
  unfold parsed
  cases htext : env.text? key with
  | none =>
      exact .unset htext
  | some s =>
      have hvalue := hparse s
      dsimp only
      cases hread : reader (Text.trimChars s.toList) with
      | error e =>
          rw [hread] at hvalue
          exact .refused _ ⟨s, htext, hvalue⟩
      | ok v =>
          rw [hread] at hvalue
          exact .value htext hvalue

theorem reading_bool : Reading env .bool key (env.bool key) := by
  unfold bool
  cases htext : env.text? key with
  | none =>
      exact .unset htext
  | some s =>
      dsimp only
      cases htruth : truthOf? s with
      | none =>
          exact .refused _ ⟨s, htext, htruth⟩
      | some b =>
          exact .value htext htruth

theorem reading (env : Env) (k : Kind) (key : String) : Reading env k key (k.read env key) := by
  cases k with
  | bool =>
      exact reading_bool
  | word64 | word32 | size | float =>
      exact reading_parsed _ _ fun _ => rfl

theorem parse_word64_iff {s : String} {v : UInt64} :
    Kind.word64.parse s = some v <-> Text.Denotes (Text.trimChars s.toList) v.toNat :=
  Text.toOption_readNatural_iff UInt64.toNat_lt (fun _ => UInt64.ofNat_toNat) fun n hn => by
    rw [UInt64.toNat_ofNat', Nat.mod_eq_of_lt hn]

theorem parse_word32_iff {s : String} {v : UInt32} :
    Kind.word32.parse s = some v <-> Text.Denotes (Text.trimChars s.toList) v.toNat :=
  Text.toOption_readNatural_iff UInt32.toNat_lt (fun _ => UInt32.ofNat_toNat) fun n hn => by
    rw [UInt32.toNat_ofNat', Nat.mod_eq_of_lt hn]

/-!
## Values that are bytes
-/

def decode (b : List UInt8) : Option String := String.fromUTF8? ⟨b.toArray⟩

def ofBytes (vars : List (String × List UInt8)) : Env :=
  ⟨vars.map fun v => (v.1, .ofBytes v.2)⟩

theorem value?_ofBytes (vars : List (String × List UInt8)) (key : String) :
    (ofBytes vars).value? key = (vars.lookup key).map .ofBytes := by
  show (vars.map fun v => (v.1, Value.ofBytes v.2)).lookup key = _
  induction vars with
  | nil =>
      rfl
  | cons v rest ih =>
      rw [List.map_cons, List.lookup_cons, List.lookup_cons]
      cases key == v.1 with
      | true =>
          rfl
      | false =>
          exact ih

/-- Bytes that encode no text look like no value at all. -/
theorem text?_ofBytes (vars : List (String × List UInt8)) (key : String) :
    (ofBytes vars).text? key = (vars.lookup key).bind decode := by
  unfold text?
  rw [value?_ofBytes]
  cases vars.lookup key with
  | none =>
      rfl
  | some b =>
      simp only [Option.map_some, Option.bind_some]
      unfold Value.ofBytes decode
      cases String.fromUTF8? ⟨b.toArray⟩ with
      | none | some s =>
          rfl

/-!
## Settings
-/

def given (env : Env) (k : Kind) (key : String) : Option k.Value :=
  (env.text? key).bind k.parse

structure Setting (α : Type) where
  kind : Kind
  field : String
  Target : Type
  convert : kind.Value -> Target
  get : α -> Target
  put : Target -> α -> α
  put_get : forall c, put (get c) c = c

namespace Setting

variable {α : Type} {keyOf : String -> String}

def override (s : Setting α) : Override α :=
  ⟨s.field, fun env key => (s.kind.read env key).map (·.map fun v => s.put (s.convert v))⟩

/-- The field holds what its variable says, or what it did. -/
def settle (env : Env) (keyOf : String -> String) (s : Setting α) (c : α) : α :=
  s.put (((env.given s.kind (keyOf s.field)).map s.convert).getD (s.get c)) c

def source (s : Setting α) : Kind × String := (s.kind, s.field)

def plain (k : Kind) (field : String) (get : α -> k.Value) (put : k.Value -> α -> α)
    (h : forall c, put (get c) c = c := by intro c; rfl) : Setting α :=
  ⟨k, field, k.Value, id, get, put, h⟩

def secs (field : String) (get : α -> Duration) (put : Duration -> α -> α)
    (h : forall c, put (get c) c = c := by intro c; rfl) : Setting α :=
  ⟨.word64, field, Duration, .ofSecs, get, put, h⟩

def millis (field : String) (get : α -> Duration) (put : Duration -> α -> α)
    (h : forall c, put (get c) c = c := by intro c; rfl) : Setting α :=
  ⟨.word64, field, Duration, .ofMillis, get, put, h⟩

end Setting

/-- What comes of variables that are to be read into a configuration.  If they can all be
read the outcome is the one that they ask for; otherwise it names one that cannot. -/
inductive Heeds {α : Type} (env : Env) (keyOf : String -> String) (vars : List (Kind × String))
    (asked : α) : Except ConfigError α -> Prop where
  | read (h : forall v, v ∈ vars -> ¬Misspelt env v.1 (keyOf v.2)) :
      Heeds env keyOf vars asked (.ok asked)
  | refused {v : Kind × String} (message : String) (hv : v ∈ vars)
      (h : Misspelt env v.1 (keyOf v.2)) :
      Heeds env keyOf vars asked (.error (.invalidVariable (keyOf v.2) message))

variable {α : Type} {keyOf : String -> String}

theorem apply_override (env : Env) (key : String) (s : Setting α) (c : α) :
    (¬Misspelt env s.kind key ∧
        s.override.apply env key c =
          .ok (s.put (((env.given s.kind key).map s.convert).getD (s.get c)) c)) ∨
      Misspelt env s.kind key ∧
        exists message, s.override.apply env key c = .error (.invalidVariable key message) := by
  unfold Override.apply Setting.override
  dsimp only
  generalize hread : s.kind.read env key = r
  have hreading := reading env s.kind key
  rw [hread] at hreading
  cases hreading with
  | unset htext =>
      refine Or.inl ⟨?_, ?_⟩
      · rintro ⟨t, ht, _⟩
        rw [htext] at ht
        cases ht
      · have hgiven : env.given s.kind key = none := by
          unfold given
          rw [htext]
          rfl
        rw [hgiven]
        exact congrArg Except.ok (s.put_get c).symm
  | @value t v htext hparse =>
      refine Or.inl ⟨?_, ?_⟩
      · rintro ⟨t', ht, hnone⟩
        rw [htext] at ht
        cases ht
        rw [hparse] at hnone
        cases hnone
      · have hgiven : env.given s.kind key = some v := by
          unfold given
          rw [htext]
          exact hparse
        rw [hgiven]
        rfl
  | refused message hmisspelt =>
      exact Or.inr ⟨hmisspelt, message, rfl⟩

theorem heeds_applyAll (env : Env) (keyOf : String -> String) (settings : List (Setting α))
    (c : α) :
    Heeds env keyOf (settings.map Setting.source)
      (settings.foldl (fun c s => s.settle env keyOf c) c)
      (env.applyAll keyOf c (settings.map Setting.override)) := by
  induction settings generalizing c with
  | nil =>
      exact .read fun _ h => nomatch h
  | cons s rest ih =>
      rw [List.map_cons, List.map_cons, List.foldl_cons, applyAll]
      rcases apply_override env (keyOf s.field) s c with
        ⟨hspelt, happly⟩ | ⟨hmisspelt, message, happly⟩
      · have happly' : s.override.apply env (keyOf s.override.field) c =
            .ok (s.settle env keyOf c) := happly
        rw [happly']
        dsimp only
        generalize hrest : env.applyAll keyOf (s.settle env keyOf c) (rest.map Setting.override) = r
        have hih := ih (s.settle env keyOf c)
        rw [hrest] at hih
        cases hih with
        | read h =>
            exact .read (List.forall_mem_cons.mpr ⟨hspelt, h⟩)
        | refused message hv h =>
            exact .refused message (List.mem_cons_of_mem _ hv) h
      · have happly' : s.override.apply env (keyOf s.override.field) c =
            .error (.invalidVariable (keyOf s.field) message) := happly
        rw [happly']
        exact .refused (v := s.source) message List.mem_cons_self hmisspelt

theorem applyAll_append (env : Env) (keyOf : String -> String) (c : α)
    (first second : List (Override α)) :
    env.applyAll keyOf c (first ++ second) =
      match env.applyAll keyOf c first with
      | .ok c => env.applyAll keyOf c second
      | .error e => .error e := by
  induction first generalizing c with
  | nil =>
      rfl
  | cons o rest ih =>
      rw [List.cons_append, applyAll, applyAll]
      cases o.apply env (keyOf o.field) c with
      | ok c' =>
          exact ih c'
      | error e =>
          rfl

end Env

/-!
## Pools
-/

namespace PoolConfig

def settings : List (Env.Setting PoolConfig) :=
  [.plain .size "MIN_SIZE" minSize fun v c => { c with minSize := v },
    .plain .size "MAX_SIZE" maxSize fun v c => { c with maxSize := v },
    .secs "CONNECTION_TIMEOUT_SECS" connectionTimeout fun v c => { c with connectionTimeout := v },
    .secs "IDLE_TIMEOUT_SECS" idleTimeout fun v c => { c with idleTimeout := v },
    .secs "MAX_LIFETIME_SECS" maxLifetime fun v c => { c with maxLifetime := v },
    .secs "HEALTH_CHECK_INTERVAL_SECS" healthCheckInterval
      fun v c => { c with healthCheckInterval := v },
    .millis "VALIDATION_TIMEOUT_MS" validationTimeout fun v c => { c with validationTimeout := v },
    .plain .word32 "RETRY_ATTEMPTS" retryAttempts fun v c => { c with retryAttempts := v },
    .millis "RETRY_DELAY_MS" retryDelay fun v c => { c with retryDelay := v }]

theorem overrides_eq : overrides = settings.map Env.Setting.override := rfl

/-- The configuration that the environment asks for: each field is what its variable says, if
it says something, and the default otherwise. -/
def asked (env : Env) (name : String) : PoolConfig :=
  let given (k : Env.Kind) (field : String) : Option k.Value := env.given k (envKey name field)
  let secs (field : String) : Option Duration := (given .word64 field).map .ofSecs
  let millis (field : String) : Option Duration := (given .word64 field).map .ofMillis
  { name := name
    minSize := (given .size "MIN_SIZE").getD (named name).minSize
    maxSize := (given .size "MAX_SIZE").getD (named name).maxSize
    connectionTimeout := (secs "CONNECTION_TIMEOUT_SECS").getD (named name).connectionTimeout
    idleTimeout := (secs "IDLE_TIMEOUT_SECS").getD (named name).idleTimeout
    maxLifetime := (secs "MAX_LIFETIME_SECS").getD (named name).maxLifetime
    healthCheckInterval :=
      (secs "HEALTH_CHECK_INTERVAL_SECS").getD (named name).healthCheckInterval
    validationTimeout := (millis "VALIDATION_TIMEOUT_MS").getD (named name).validationTimeout
    retryAttempts := (given .word32 "RETRY_ATTEMPTS").getD (named name).retryAttempts
    retryDelay := (millis "RETRY_DELAY_MS").getD (named name).retryDelay }

theorem heeds_ofEnv (env : Env) (name : String) :
    Env.Heeds env (envKey name) (settings.map Env.Setting.source) (asked env name)
      (ofEnv env name) := by
  have hall := Env.heeds_applyAll env (envKey name) settings (named name)
  have hasked : settings.foldl (fun c s => s.settle env (envKey name) c) (named name) =
      asked env name := by
    simp only [settings, List.foldl_cons, List.foldl_nil, Env.Setting.settle, Env.Setting.plain,
      Option.map_id, id_eq]
    rfl
  rw [hasked, ← overrides_eq] at hall
  exact hall

end PoolConfig

/-!
## The health service
-/

namespace HealthConfig

/-- The settings of the health service that have typed variables. -/
def settings : List (Env.Setting HealthConfig) :=
  [.secs "CHECK_INTERVAL_SECS" checkInterval fun v c => { c with checkInterval := v },
    .secs "CHECK_TIMEOUT_SECS" checkTimeout fun v c => { c with checkTimeout := v },
    .secs "ERROR_PAUSE_SECS" errorPause fun v c => { c with errorPause := v },
    .plain .float "DATABASE_THRESHOLD_PERCENT" databaseThresholdPercent
      fun v c => { c with databaseThresholdPercent := v },
    .plain .float "POOL_CAPACITY_PERCENT" poolCapacityPercent
      fun v c => { c with poolCapacityPercent := v },
    .plain .float "DISK_DEGRADED_PERCENT" (·.disk.degradedPercent)
      fun v c => { c with disk.degradedPercent := v },
    .plain .float "DISK_UNHEALTHY_PERCENT" (·.disk.unhealthyPercent)
      fun v c => { c with disk.unhealthyPercent := v },
    .plain .float "MEMORY_DEGRADED_PERCENT" (·.memory.degradedPercent)
      fun v c => { c with memory.degradedPercent := v },
    .plain .float "MEMORY_UNHEALTHY_PERCENT" (·.memory.unhealthyPercent)
      fun v c => { c with memory.unhealthyPercent := v },
    .plain .float "CPU_DEGRADED_PERCENT" (·.cpu.degradedPercent)
      fun v c => { c with cpu.degradedPercent := v },
    .plain .float "CPU_UNHEALTHY_PERCENT" (·.cpu.unhealthyPercent)
      fun v c => { c with cpu.unhealthyPercent := v },
    .plain .size "HISTORY_MAX_ENTRIES" (·.history.maxEntries)
      fun v c => { c with history.maxEntries := v },
    .plain .word32 "HISTORY_RETENTION_DAYS" (·.history.retentionDays)
      fun v c => { c with history.retentionDays := v },
    .plain .size "HISTORY_CLEANUP_BATCH_SIZE" (·.history.cleanupBatchSize)
      fun v c => { c with history.cleanupBatchSize := v },
    .plain .bool "ALERTS_ENABLED" alertsEnabled fun v c => { c with alertsEnabled := v }]

theorem overrides_eq :
    overrides = settings.map Env.Setting.override ++
      [.ofText "PROBE_DIR" fun v c => { c with probeDir := some v }] := rfl

def asked (env : Env) : HealthConfig :=
  let given (k : Env.Kind) (field : String) : Option k.Value := env.given k (envKey field)
  let secs (field : String) : Option Duration := (given .word64 field).map .ofSecs
  let cutOffs (what : String) (default : Thresholds) : Thresholds :=
    ⟨(given .float (what ++ "_DEGRADED_PERCENT")).getD default.degradedPercent,
      (given .float (what ++ "_UNHEALTHY_PERCENT")).getD default.unhealthyPercent⟩
  { checkInterval := (secs "CHECK_INTERVAL_SECS").getD standard.checkInterval
    checkTimeout := (secs "CHECK_TIMEOUT_SECS").getD standard.checkTimeout
    errorPause := (secs "ERROR_PAUSE_SECS").getD standard.errorPause
    databaseThresholdPercent :=
      (given .float "DATABASE_THRESHOLD_PERCENT").getD standard.databaseThresholdPercent
    poolCapacityPercent :=
      (given .float "POOL_CAPACITY_PERCENT").getD standard.poolCapacityPercent
    disk := cutOffs "DISK" standard.disk
    memory := cutOffs "MEMORY" standard.memory
    cpu := cutOffs "CPU" standard.cpu
    history :=
      { maxEntries := (given .size "HISTORY_MAX_ENTRIES").getD standard.history.maxEntries
        retentionDays :=
          (given .word32 "HISTORY_RETENTION_DAYS").getD standard.history.retentionDays
        cleanupBatchSize :=
          (given .size "HISTORY_CLEANUP_BATCH_SIZE").getD standard.history.cleanupBatchSize }
    alertsEnabled := (given .bool "ALERTS_ENABLED").getD standard.alertsEnabled
    probeDir := env.nonBlank? (envKey "PROBE_DIR") }

theorem applyAll_probeDir (env : Env) {c : HealthConfig} (hc : c.probeDir = none) :
    env.applyAll envKey c [.ofText "PROBE_DIR" fun v c => { c with probeDir := some v }] =
      .ok { c with probeDir := env.nonBlank? (envKey "PROBE_DIR") } := by
  unfold Env.applyAll Env.Override.apply Env.Override.ofText
  dsimp only [Except.map]
  cases env.nonBlank? (envKey "PROBE_DIR") with
  | none =>
      show Except.ok c = .ok { c with probeDir := none }
      rw [← hc]
  | some dir =>
      rfl

theorem heeds_ofEnv (env : Env) :
    Env.Heeds env envKey (settings.map Env.Setting.source) (asked env) (ofEnv env) := by
  have hall := Env.heeds_applyAll env envKey settings standard
  have hasked : settings.foldl (fun c s => s.settle env envKey c) standard =
      { asked env with probeDir := none } := by
    simp only [settings, List.foldl_cons, List.foldl_nil, Env.Setting.settle, Env.Setting.plain,
      Option.map_id, id_eq]
    rfl
  unfold ofEnv
  rw [overrides_eq, Env.applyAll_append]
  generalize env.applyAll envKey standard (settings.map Env.Setting.override) = r at hall
  cases hall with
  | read h =>
      rw [hasked]
      dsimp only
      rw [applyAll_probeDir env rfl]
      exact .read h
  | refused message hv h =>
      exact .refused message hv h

end HealthConfig

/-!
## All variables
-/

namespace Env

/-- What a typed reader makes of a variable whose value may be any bytes.  It may not overlook
a variable that is set, which it does if and only if the bytes encode no text. -/
structure ReadsBytes (vars : List (String × List UInt8)) (key : String) (k : Kind) : Prop where
  unset : k.read (ofBytes vars) key = .ok none <-> (vars.lookup key).bind decode = none
  value : forall v, k.read (ofBytes vars) key = .ok (some v) <->
    exists s, (vars.lookup key).bind decode = some s ∧ k.parse s = some v
  refused : forall e, k.read (ofBytes vars) key = .error e ->
    exists s message, (vars.lookup key).bind decode = some s ∧ k.parse s = none ∧
      e = .invalidVariable key message
  heedful : (k.read (ofBytes vars) key = .ok none <-> vars.lookup key = none) <->
    forall b, vars.lookup key = some b -> exists s, decode b = some s

theorem readsBytes (vars : List (String × List UInt8)) (key : String) (k : Kind) :
    ReadsBytes vars key k := by
  have hreading := reading (ofBytes vars) k key
  generalize hread : k.read (ofBytes vars) key = r at hreading
  have hunset : r = .ok none <-> (vars.lookup key).bind decode = none := by
    rw [← text?_ofBytes]
    constructor
    · rintro rfl
      cases hreading with
      | unset h =>
          exact h
    · intro hnone
      cases hreading with
      | unset h =>
          rfl
      | value h | refused _ h =>
          simp [Misspelt, hnone] at h
  constructor
  · rw [hread]
    exact hunset
  · intro v
    rw [hread, ← text?_ofBytes]
    constructor
    · rintro rfl
      cases hreading with
      | value h hparse =>
          exact ⟨_, h, hparse⟩
    · rintro ⟨s, hs, hv⟩
      cases hreading with
      | unset h =>
          rw [h] at hs
          cases hs
      | value h hparse =>
          rw [h] at hs
          cases hs
          rw [← hparse, hv]
      | refused message h =>
          simp [Misspelt, hs, hv] at h
  · intro e he
    rw [hread] at he
    subst he
    cases hreading with
    | refused message h =>
        rcases h with ⟨s, h, hnone⟩
        rw [text?_ofBytes] at h
        exact ⟨s, message, h, hnone, rfl⟩
  · rw [hread, hunset]
    cases vars.lookup key with
    | none =>
        simp
    | some b =>
        simp [Option.ne_none_iff_exists']

/-- A variable that is set to a text is read as what the text stands for, or it is named in an
error; whole numbers are read from their numerals.  It counts as one that is not set if its
value is no text, and only then.  A configuration is the one that such variables ask for, with
the defaults for the others, or the outcome names one that cannot be read. -/
theorem variables_heeded (vars : List (String × List UInt8)) :
    (forall key k, ReadsBytes vars key k) ∧
    (forall s v, Kind.word64.parse s = some v <->
      Text.Denotes (Text.trimChars s.toList) v.toNat) ∧
    (forall s v, Kind.size.parse s = some v <->
      Text.Denotes (Text.trimChars s.toList) v.toNat) ∧
    (forall s v, Kind.word32.parse s = some v <->
      Text.Denotes (Text.trimChars s.toList) v.toNat) ∧
    (forall name,
      Heeds (ofBytes vars) (PoolConfig.envKey name) (PoolConfig.settings.map Setting.source)
        (PoolConfig.asked (ofBytes vars) name) (PoolConfig.ofEnv (ofBytes vars) name)) ∧
    Heeds (ofBytes vars) HealthConfig.envKey (HealthConfig.settings.map Setting.source)
      (HealthConfig.asked (ofBytes vars)) (HealthConfig.ofEnv (ofBytes vars)) :=
  ⟨fun key k => readsBytes vars key k, fun _ _ => parse_word64_iff, fun _ _ => parse_word64_iff,
    fun _ _ => parse_word32_iff, PoolConfig.heeds_ofEnv _, HealthConfig.heeds_ofEnv _⟩

/-- The bytes of `42` with one behind them that no text has. -/
def unreadable : List (String × List UInt8) := [("RESERVOIR_POOL_DB_MAX_SIZE", [52, 50, 255])]

/-- A variable is set, and its reader and the configuration of the pool go on as if it was not. -/
theorem bytes_are_overlooked :
    (unreadable.lookup (PoolConfig.envKey "db" "MAX_SIZE")).isSome = true ∧
      Kind.size.read (ofBytes unreadable) (PoolConfig.envKey "db" "MAX_SIZE") = .ok none ∧
      PoolConfig.ofEnv (ofBytes unreadable) "db" = .ok (PoolConfig.named "db") := by
  refine ⟨?_, ?_, ?_⟩
  · decide +kernel
  · rfl
  · rfl

end Env
end PoolHealth

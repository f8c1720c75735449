import PoolHealth.Manager.Config
import Mathlib.Data.List.DropRight
import Mathlib.Data.String.Basic

/-!
# What addresses give away

An address that is shown has three stars for all that stands between its scheme and its last `@`.
Whoever stands there, and with whatever characters in the name, what is shown is the same.

Addresses can be cut at places that are counted in bytes, too, where a cut through a character is
refused.  None ever is.
-/

namespace PoolHealth

open String (utf8Len utf8Len_append)

variable {cs front user host body : List Char}

/-!
## The parts of an address
-/

/-- The end of a scheme does not overlap with itself, so that the first one is easily told. -/
theorem schemeEnd_not_at_front {c : Char} {rest : List Char} (hfront : ¬schemeEnd <:+: c :: rest)
    (body : List Char) : ¬schemeEnd <+: c :: rest ++ schemeEnd ++ body := by
  intro hstart
  match rest with
  | [] =>
      simp [schemeEnd] at hstart
  | [d] =>
      simp [schemeEnd] at hstart
  | d :: e :: rest =>
      have hends : schemeEnd <+: c :: d :: e :: rest := by
        simpa [schemeEnd] using hstart
      exact hfront hends.isInfix

theorem splitScheme?_append (hfront : ¬schemeEnd <:+: front) (body : List Char) :
    splitScheme? (front ++ schemeEnd ++ body) = some (front ++ schemeEnd, body) := by
  induction front with
  | nil =>
      rfl
  | cons c rest ih =>
      have hstart := mt List.isPrefixOf_iff_prefix.mp (schemeEnd_not_at_front hfront body)
      have hrest : ¬schemeEnd <:+: rest := fun h => hfront (List.infix_cons h)
      rw [List.cons_append, List.cons_append] at hstart ⊢
      rw [splitScheme?, if_neg hstart, ih hrest]
      rfl

theorem splitScheme?_eq_none (h : ¬schemeEnd <:+: cs) : splitScheme? cs = none := by
  induction cs with
  | nil =>
      rfl
  | cons c rest ih =>
      have hstart : ¬schemeEnd.isPrefixOf (c :: rest) = true := fun hstart =>
        h (List.isPrefixOf_iff_prefix.mp hstart).isInfix
      rw [splitScheme?, if_neg hstart, ih fun hrest => h (List.infix_cons hrest)]
      rfl

theorem fromLastAt?_eq_none (h : '@' ∉ cs) : fromLastAt? cs = none := by
  induction cs with
  | nil =>
      rfl
  | cons c rest ih =>
      rw [List.mem_cons, not_or] at h
      rw [fromLastAt?, ih h.2]
      exact if_neg fun hc => h.1 hc.symm

theorem fromLastAt?_append (user : List Char) (hhost : '@' ∉ host) :
    fromLastAt? (user ++ '@' :: host) = some ('@' :: host) := by
  induction user with
  | nil =>
      rw [List.nil_append, fromLastAt?, fromLastAt?_eq_none hhost]
      rfl
  | cons c rest ih =>
      rw [List.cons_append, fromLastAt?, ih]

/-- A text is no address with a scheme, or it names nobody behind the scheme, or somebody, whose
name may be empty. -/
inductive Anatomy : List Char -> Prop where
  | schemeless {cs : List Char} (h : ¬schemeEnd <:+: cs) : Anatomy cs
  | anonymous {front body : List Char} (hfront : ¬schemeEnd <:+: front) (hbody : '@' ∉ body) :
      Anatomy (front ++ schemeEnd ++ body)
  | personal {front host : List Char} (user : List Char) (hfront : ¬schemeEnd <:+: front)
      (hhost : '@' ∉ host) : Anatomy (front ++ schemeEnd ++ (user ++ '@' :: host))

theorem exists_scheme (h : schemeEnd <:+: cs) :
    exists front body, ¬schemeEnd <:+: front ∧ cs = front ++ schemeEnd ++ body := by
  induction cs with
  | nil =>
      exact absurd h (by decide)
  | cons c rest ih =>
      by_cases hstart : schemeEnd <+: c :: rest
      · rcases hstart with ⟨body, hbody⟩
        exact ⟨[], body, by decide, hbody.symm⟩
      · have hrest := (List.infix_cons_iff.mp h).resolve_left hstart
        rcases ih hrest with ⟨front, body, hfront, rfl⟩
        refine ⟨c :: front, body, fun hearly => ?_, rfl⟩
        rcases List.infix_cons_iff.mp hearly with hhere | hlater
        · exact hstart (hhere.trans ⟨schemeEnd ++ body, by simp⟩)
        · exact hfront hlater

def behindLastAt (cs : List Char) : List Char := cs.rtakeWhile (· != '@')

theorem not_mem_behindLastAt (cs : List Char) : '@' ∉ behindLastAt cs := fun h =>
  absurd (List.mem_rtakeWhile_imp h) (by decide)

theorem exists_cons_behindLastAt (cs : List Char) :
    exists more, '@' :: cs = more ++ '@' :: behindLastAt cs := by
  unfold behindLastAt
  induction cs using List.reverseRecOn with
  | nil =>
      exact ⟨[], rfl⟩
  | append_singleton cs c ih =>
      rw [List.rtakeWhile_concat]
      by_cases hc : c = '@'
      · subst hc
        exact ⟨'@' :: cs, rfl⟩
      · rcases ih with ⟨more, hmore⟩
        refine ⟨more, ?_⟩
        rw [if_pos (bne_iff_ne.mpr hc), ← List.cons_append, hmore]
        simp

theorem anatomy (cs : List Char) : Anatomy cs := by
  by_cases hscheme : schemeEnd <:+: cs
  · rcases exists_scheme hscheme with ⟨front, body, hfront, rfl⟩
    by_cases hbody : '@' ∈ body
    · rcases List.append_of_mem hbody with ⟨user, rest, rfl⟩
      rcases exists_cons_behindLastAt rest with ⟨more, hmore⟩
      rw [hmore, ← List.append_assoc user]
      exact .personal (user ++ more) hfront (not_mem_behindLastAt rest)
    · exact .anonymous hfront hbody
  · exact .schemeless hscheme

/-!
## What is shown
-/

theorem sanitizeChars_schemeless (h : ¬schemeEnd <:+: cs) : sanitizeChars cs = cs := by
  unfold sanitizeChars
  rw [splitScheme?_eq_none h]

theorem sanitizeChars_anonymous (hfront : ¬schemeEnd <:+: front) (hbody : '@' ∉ body) :
    sanitizeChars (front ++ schemeEnd ++ body) = front ++ schemeEnd ++ body := by
  unfold sanitizeChars
  rw [splitScheme?_append hfront]
  dsimp only
  rw [fromLastAt?_eq_none hbody]

theorem sanitizeChars_personal (hfront : ¬schemeEnd <:+: front) (user : List Char)
    (hhost : '@' ∉ host) :
    sanitizeChars (front ++ schemeEnd ++ (user ++ '@' :: host)) =
      front ++ schemeEnd ++ ((if user = [] then [] else ['*', '*', '*']) ++ '@' :: host) := by
  unfold sanitizeChars
  rw [splitScheme?_append hfront]
  dsimp only
  rw [fromLastAt?_append user hhost]
  dsimp only
  cases user with
  | nil =>
      simp
  | cons c rest =>
      have hshorter : ('@' :: host).length < (c :: rest ++ '@' :: host).length := by
        rw [List.length_append, List.length_cons (a := c)]
        omega
      rw [if_pos hshorter]
      rfl

/-- Nothing is left to be hidden in what is shown. -/
theorem sanitizeChars_idem (cs : List Char) :
    sanitizeChars (sanitizeChars cs) = sanitizeChars cs := by
  cases anatomy cs with
  | schemeless h =>
      rw [sanitizeChars_schemeless h, sanitizeChars_schemeless h]
  | anonymous hfront hbody =>
      rw [sanitizeChars_anonymous hfront hbody, sanitizeChars_anonymous hfront hbody]
  | personal user hfront hhost =>
      rw [sanitizeChars_personal hfront user hhost, sanitizeChars_personal hfront _ hhost]
      by_cases huser : user = []
      · simp [huser]
      · simp [huser]

/-!
## Places in a text
-/

/-- The text between two places, which are counted in bytes.  It is refused if they are in the
wrong order, or if one of them lies behind the text or inside a character. -/
def slice? (s : String) (start stop : Nat) : Option String :=
  if start ≤ stop ∧ String.Pos.Raw.isValid s ⟨start⟩ = true ∧
      String.Pos.Raw.isValid s ⟨stop⟩ = true then
    some (String.Pos.Raw.extract s ⟨start⟩ ⟨stop⟩)
  else none

/-- The number of bytes in front of the first place where a text begins. -/
def firstPlace? (pattern : List Char) : List Char -> Option Nat
  | [] => none
  | c :: rest =>
      if pattern.isPrefixOf (c :: rest) then some 0
      else (firstPlace? pattern rest).map (· + c.utf8Size)

def lastPlace? (x : Char) : List Char -> Option Nat
  | [] => none
  | c :: rest =>
      match lastPlace? x rest with
      | some n => some (n + c.utf8Size)
      | none => if c = x then some 0 else none

def maskBetween? (s : String) (start stop : Nat) : Option String := do
  let shown ← slice? s 0 start
  let rest ← slice? s stop s.utf8ByteSize
  return shown ++ "***" ++ rest

/-- The address with what lies between the scheme and the last `@` masked, if something does. -/
def sanitizeByPlaces? (url : String) : Option String :=
  match firstPlace? schemeEnd url.toList, lastPlace? '@' url.toList with
  | some colon, some sign =>
      if colon + 3 < sign then maskBetween? url (colon + 3) sign else some url
  | _, _ => some url

theorem isValid_ofList (left right : List Char) :
    String.Pos.Raw.isValid (String.ofList (left ++ right)) ⟨utf8Len left⟩ = true := by
  rw [String.Pos.Raw.isValid_eq_true_iff, String.Pos.Raw.isValid_iff_exists_append]
  refine ⟨String.ofList left, String.ofList right, String.ofList_append, ?_⟩
  exact String.Pos.Raw.ext (String.utf8ByteSize_ofList left).symm

theorem slice?_ofList (left middle right : List Char) :
    slice? (String.ofList (left ++ middle ++ right)) (utf8Len left)
      (utf8Len left + utf8Len middle) = some (String.ofList middle) := by
  have hstart := isValid_ofList left (middle ++ right)
  rw [← List.append_assoc] at hstart
  have hstop := isValid_ofList (left ++ middle) right
  rw [utf8Len_append] at hstop
  unfold slice?
  rw [if_pos ⟨Nat.le_add_right _ _, hstart, hstop⟩, String.extract_of_valid]

theorem slice?_front (left right : List Char) :
    slice? (String.ofList (left ++ right)) 0 (utf8Len left) = some (String.ofList left) := by
  have hcut := slice?_ofList [] left right
  rw [List.nil_append, String.utf8Len_nil, Nat.zero_add] at hcut
  exact hcut

theorem slice?_back (left right : List Char) :
    slice? (String.ofList (left ++ right)) (utf8Len left)
      (String.ofList (left ++ right)).utf8ByteSize = some (String.ofList right) := by
  have hcut := slice?_ofList left right []
  rw [List.append_nil, ← utf8Len_append, ← String.utf8ByteSize_ofList (left ++ right)] at hcut
  exact hcut

theorem maskBetween?_ofList (left middle right : List Char) :
    maskBetween? (String.ofList (left ++ (middle ++ right))) (utf8Len left)
        (utf8Len (left ++ middle)) =
      some (String.ofList (left ++ (['*', '*', '*'] ++ right))) := by
  have hshown := slice?_front left (middle ++ right)
  have hrest := slice?_back (left ++ middle) right
  rw [List.append_assoc] at hrest
  have hstars : "***" = String.ofList ['*', '*', '*'] := rfl
  unfold maskBetween?
  rw [hshown, hrest]
  show some (_ ++ "***" ++ _) = _
  rw [hstars, ← String.ofList_append, ← String.ofList_append, List.append_assoc]

theorem firstPlace?_schemeEnd (cs : List Char) :
    (firstPlace? schemeEnd cs).map (· + 3) =
      (splitScheme? cs).map fun parts => utf8Len parts.1 := by
  induction cs with
  | nil =>
      rfl
  | cons c rest ih =>
      rw [firstPlace?, splitScheme?]
      by_cases hstart : schemeEnd.isPrefixOf (c :: rest) = true
      · rw [if_pos hstart, if_pos hstart]
        rfl
      · rw [if_neg hstart, if_neg hstart, Option.map_map, Option.map_map]
        have hstep := congrArg (Option.map (· + c.utf8Size)) ih
        rw [Option.map_map, Option.map_map] at hstep
        refine Eq.trans ?_ hstep
        congr 1
        funext n
        simp only [Function.comp_apply]
        omega

theorem firstPlace?_eq_none (h : ¬schemeEnd <:+: cs) : firstPlace? schemeEnd cs = none := by
  have hfirst := firstPlace?_schemeEnd cs
  rw [splitScheme?_eq_none h] at hfirst
  exact Option.map_eq_none_iff.mp hfirst

theorem exists_firstPlace (hfront : ¬schemeEnd <:+: front) (body : List Char) :
    exists colon, firstPlace? schemeEnd (front ++ schemeEnd ++ body) = some colon ∧
      colon + 3 = utf8Len (front ++ schemeEnd) := by
  have hfirst := firstPlace?_schemeEnd (front ++ schemeEnd ++ body)
  rw [splitScheme?_append hfront, Option.map_some] at hfirst
  exact Option.map_eq_some_iff.mp hfirst

theorem lastPlace?_eq_none {x : Char} (h : x ∉ cs) : lastPlace? x cs = none := by
  induction cs with
  | nil =>
      rfl
  | cons c rest ih =>
      rw [List.mem_cons, not_or] at h
      rw [lastPlace?, ih h.2]
      exact if_neg fun hc => h.1 hc.symm

theorem lastPlace?_append {x : Char} (left : List Char) {right : List Char} (h : x ∉ right) :
    lastPlace? x (left ++ x :: right) = some (utf8Len left) := by
  induction left with
  | nil =>
      rw [List.nil_append, lastPlace?, lastPlace?_eq_none h]
      exact if_pos rfl
  | cons c rest ih =>
      rw [List.cons_append, lastPlace?, ih]
      rfl

theorem lastPlace?_lt {x : Char} {left right : List Char} {n : Nat} (h : x ∉ right)
    (hplace : lastPlace? x (left ++ right) = some n) : n < utf8Len left := by
  induction left generalizing n with
  | nil =>
      rw [List.nil_append, lastPlace?_eq_none h] at hplace
      cases hplace
  | cons c rest ih =>
      have hsize := c.utf8Size_pos
      rw [List.cons_append, lastPlace?] at hplace
      rw [String.utf8Len_cons]
      split at hplace
      · rename_i m hlater
        have hless := ih hlater
        cases hplace
        omega
      · split at hplace
        · cases hplace
          omega
        · cases hplace

/-- No cut goes through a character, and the pieces are those that are shown. -/
theorem sanitizeByPlaces?_ofList (cs : List Char) :
    sanitizeByPlaces? (String.ofList cs) = some (String.ofList (sanitizeChars cs)) := by
  unfold sanitizeByPlaces?
  rw [String.toList_ofList]
  cases anatomy cs with
  | schemeless h =>
      rw [firstPlace?_eq_none h, sanitizeChars_schemeless h]
  | @anonymous front body hfront hbody =>
      rcases exists_firstPlace hfront body with ⟨colon, hcolon, hplace⟩
      rw [hcolon, sanitizeChars_anonymous hfront hbody]
      cases hsign : lastPlace? '@' (front ++ schemeEnd ++ body) with
      | none =>
          rfl
      | some sign =>
          have hearly := lastPlace?_lt hbody hsign
          exact if_neg (by omega)
  | @personal front host user hfront hhost =>
      rcases exists_firstPlace hfront (user ++ '@' :: host) with ⟨colon, hcolon, hplace⟩
      have hsign : lastPlace? '@' (front ++ schemeEnd ++ (user ++ '@' :: host)) =
          some (utf8Len (front ++ schemeEnd ++ user)) := by
        rw [← List.append_assoc, lastPlace?_append _ hhost]
      rw [hcolon, hsign, sanitizeChars_personal hfront user hhost]
      dsimp only
      have hcuts := utf8Len_append (front ++ schemeEnd) user
      by_cases huser : user = []
      · subst huser
        rw [String.utf8Len_nil] at hcuts
        rw [if_neg (by omega), if_pos rfl]
      · have hpos : utf8Len user ≠ 0 := fun hzero => huser (String.utf8Len_eq_zero.mp hzero)
        rw [if_pos (by omega), hplace, maskBetween?_ofList, if_neg huser]

theorem sanitizeByPlaces?_eq (url : String) : sanitizeByPlaces? url = some (sanitizeUrl url) := by
  have hurl := sanitizeByPlaces?_ofList url.toList
  rw [String.ofList_toList] at hurl
  exact hurl

theorem sanitizeUrl_idem (url : String) : sanitizeUrl (sanitizeUrl url) = sanitizeUrl url := by
  unfold sanitizeUrl
  rw [String.toList_ofList, sanitizeChars_idem]

/-!
## Addresses of backends
-/

def address (scheme user host : String) : String := scheme ++ "://" ++ user ++ "@" ++ host

theorem toList_address (scheme user host : String) :
    (address scheme user host).toList =
      scheme.toList ++ schemeEnd ++ (user.toList ++ '@' :: host.toList) := by
  unfold address
  simp only [String.toList_append, List.append_assoc]
  rfl

theorem sanitizeUrl_address {scheme user : String} (hscheme : ¬schemeEnd <:+: scheme.toList)
    (huser : user ≠ "") (host : String) :
    sanitizeUrl (address scheme user host) =
      scheme ++ "://***@" ++ String.ofList (behindLastAt host.toList) := by
  rcases exists_cons_behindLastAt host.toList with ⟨more, hmore⟩
  have hsomebody : user.toList ++ more ≠ [] := by
    intro hnobody
    exact huser (String.toList_eq_nil_iff.mp (List.append_eq_nil_iff.mp hnobody).1)
  have hstars : "://***@" = String.ofList (schemeEnd ++ ['*', '*', '*', '@']) := rfl
  unfold sanitizeUrl
  rw [toList_address, hmore, ← List.append_assoc user.toList,
    sanitizeChars_personal hscheme _ (not_mem_behindLastAt _), if_neg hsomebody, hstars]
  apply String.toList_injective
  simp only [String.toList_append, String.toList_ofList, List.append_assoc]
  rfl

theorem BackendSpec.describe_congr {url url' : String} (h : sanitizeUrl url = sanitizeUrl url')
    {place : String -> BackendSpec}
    (hplace : place ∈ [BackendSpec.database, BackendSpec.cache, BackendSpec.http]) :
    (place url).describe = (place url').describe := by
  rw [List.mem_cons, List.mem_cons, List.mem_singleton] at hplace
  rcases hplace with rfl | rfl | rfl
  all_goals
    unfold describe
    dsimp only
    rw [h]

theorem ManagerConfig.describe_congr {p q : PoolDefinition} (h : p.describe = q.describe)
    (front back : List PoolDefinition) :
    describe ⟨front ++ p :: back⟩ = describe ⟨front ++ q :: back⟩ := by
  unfold describe
  rw [List.map_append, List.map_append, List.map_cons, List.map_cons, h]

/-- Nobody who is named in an address can be told from what is shown of it: that is the scheme,
three stars, and what stands behind the last `@`.  So backends and all pools with them are
described in the same words, whoever uses them.  Showing an address never fails, and what is shown
has nothing left to be hidden. -/
theorem credentials_stay_hidden :
    (forall scheme, ¬schemeEnd <:+: scheme.toList -> forall host,
      (forall user, user ≠ "" ->
        sanitizeUrl (address scheme user host) =
          scheme ++ "://***@" ++ String.ofList (behindLastAt host.toList)) ∧
      forall user user', user ≠ "" -> user' ≠ "" ->
        forall place, place ∈ [BackendSpec.database, BackendSpec.cache, BackendSpec.http] ->
          (place (address scheme user host)).describe =
              (place (address scheme user' host)).describe ∧
            forall front config back,
              ManagerConfig.describe
                  ⟨front ++ ⟨config, place (address scheme user host)⟩ :: back⟩ =
                ManagerConfig.describe
                  ⟨front ++ ⟨config, place (address scheme user' host)⟩ :: back⟩) ∧
    forall url, sanitizeByPlaces? url = some (sanitizeUrl url) ∧
      sanitizeUrl (sanitizeUrl url) = sanitizeUrl url := by
  refine ⟨?_, fun url => ⟨sanitizeByPlaces?_eq url, sanitizeUrl_idem url⟩⟩
  intro scheme hscheme host
  refine ⟨fun user huser => sanitizeUrl_address hscheme huser host, ?_⟩
  intro user user' huser huser' place hplace
  have hsame : sanitizeUrl (address scheme user host) = sanitizeUrl (address scheme user' host) :=
    (sanitizeUrl_address hscheme huser host).trans (sanitizeUrl_address hscheme huser' host).symm
  have hspec := BackendSpec.describe_congr hsame hplace
  refine ⟨hspec, fun front config back => ManagerConfig.describe_congr ?_ front back⟩
  unfold PoolDefinition.describe
  rw [hspec]

def replica : String := "replica@db.internal:5432/app"

/-- Somebody whose password has the end of a scheme and an `@` in it, and somebody whose name is no
plain letter. -/
theorem credentials_stay_hidden_from_both :
    ¬schemeEnd <:+: "postgres".toList ∧
      sanitizeUrl (address "postgres" "app:p://@ss" replica) =
        "postgres://***@db.internal:5432/app" ∧
      (BackendSpec.database (address "postgres" "app:p://@ss" replica)).describe =
        (BackendSpec.database (address "postgres" "é" replica)).describe ∧
      sanitizeByPlaces? (address "postgres" "é" replica) =
        some "postgres://***@db.internal:5432/app" := by
  have hscheme : ¬schemeEnd <:+: "postgres".toList := by decide +kernel
  have hfirst : "app:p://@ss" ≠ "" := by decide +kernel
  have hsecond : "é" ≠ "" := by decide +kernel
  have hshown : "postgres" ++ "://***@" ++ String.ofList (behindLastAt replica.toList) =
      "postgres://***@db.internal:5432/app" := by decide +kernel
  rcases credentials_stay_hidden.1 _ hscheme replica with ⟨hmasked, halike⟩
  refine ⟨hscheme, (hmasked _ hfirst).trans hshown, ?_, ?_⟩
  · exact (halike _ _ hfirst hsecond _ List.mem_cons_self).1
  · exact (credentials_stay_hidden.2 _).1.trans
      (congrArg some ((hmasked _ hsecond).trans hshown))

example :
    ManagerConfig.describe ⟨[⟨.named "db", .cache (address "redis" "app:secret" "db:6379")⟩]⟩ =
      "PoolManagerConfig \x7b pools: [PoolDefinition \x7b config: PoolConfig \x7b name: \"db\", " ++
      "min_size: 5, max_size: 20, connection_timeout: 30s, idle_timeout: 300s, " ++
      "max_lifetime: 1800s, health_check_interval: 60s, validation_timeout: 5s, " ++
      "retry_attempts: 3, retry_delay: 1s \x7d, " ++
      "backend: Cache \x7b url: \"redis://***@db:6379\" \x7d \x7d] \x7d" := by
  decide +kernel

end PoolHealth

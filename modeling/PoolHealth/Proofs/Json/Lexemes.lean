import PoolHealth.Json.Printer
import PoolHealth.Json.Token
import Mathlib.Data.List.Chain
import Mathlib.Data.List.TakeWhile
import Mathlib.Tactic.IntervalCases

/-!
# Lexemes

A JSON text is a sequence of lexemes with white space before, between and after them.
A lexeme fixes the characters of a token.  The same text value may be spelled in many
ways, with characters that stand for themselves and with escapes; of the numbers only
those without a fraction and without an exponent are covered.

A lexeme is read as the token that it stands for, whatever comes behind it.  Only a
number has no end of its own: what follows it must not go on as a number.
-/

namespace PoolHealth
namespace Json

/-!
## Texts
-/

/-- What stands between the quotes of a text for one piece of it. -/
inductive TextUnit where
  | plain (c : Char) (ok : c ≠ '"' ∧ c ≠ '\\' ∧ 0x20 ≤ c.toNat)
  /-- A backslash and a letter for the character `e`. -/
  | short (c e : Char) (ok : shortEscape? c = some e)
  | code (a b c d : Char) (n : Nat) (ok : hexValue4? a b c d = some n)

namespace TextUnit

def chars : TextUnit -> List Char
  | plain c _ => [c]
  | short c _ _ => ['\\', c]
  | code a b c d _ _ => ['\\', 'u', a, b, c, d]

def piece : TextUnit -> Piece
  | plain c _ => .char c
  | short _ e _ => .char e
  | code _ _ _ _ n _ => .ofEscape n

theorem scanText (u : TextUnit) (rest : List Char) :
    Json.scanText (u.chars ++ rest) = prependPiece u.piece (Json.scanText rest) := by
  cases u with
  | plain c ok =>
      rcases ok with ⟨hquote, hslash, hlow⟩
      change Json.scanText (c :: rest) = _
      rw [Json.scanText]
      · simp [hslash, Nat.not_lt.mpr hlow, piece]
      · exact hquote
      · intros; exact absurd ‹_› hslash
      · intros; exact absurd ‹_› hslash
  | short c e ok =>
      have hletter : c ≠ 'u' := by
        rintro rfl
        simp [shortEscape?] at ok
      change Json.scanText ('\\' :: c :: rest) = _
      rw [Json.scanText, ok]
      · rfl
      · intros; exact absurd ‹_› hletter
  | code a b c d n ok =>
      change Json.scanText ('\\' :: 'u' :: a :: b :: c :: d :: rest) = _
      rw [Json.scanText, ok]
      rfl

end TextUnit

theorem scanText_units (us : List TextUnit) (rest : List Char) :
    scanText (us.flatMap TextUnit.chars ++ '"' :: rest) =
      some (us.map TextUnit.piece, rest) := by
  induction us with
  | nil =>
      simp [scanText]
  | cons u us ih =>
      rw [List.flatMap_cons, List.append_assoc, TextUnit.scanText, ih]
      rfl

/-!
## Whole numbers
-/

def EndsNumber (rest : List Char) : Prop :=
  forall c, c ∈ rest.head? -> c.isDigit = false ∧ c ≠ '.' ∧ c ≠ 'e' ∧ c ≠ 'E'

variable {rest : List Char}

theorem spanDigits_append {ds : List Char} (hds : forall c, c ∈ ds -> c.isDigit = true)
    (h : EndsNumber rest) : spanDigits (ds ++ rest) = (ds, rest) := by
  have hrest : rest.takeWhile Char.isDigit = [] ∧ rest.dropWhile Char.isDigit = rest := by
    cases rest with
    | nil =>
        exact ⟨rfl, rfl⟩
    | cons c cs =>
        have hc : c.isDigit = false := (h c rfl).1
        simp [hc]
  rw [spanDigits, List.takeWhile_append_of_pos hds, List.dropWhile_append_of_pos hds,
    hrest.1, hrest.2, List.append_nil]

theorem scanFraction_of_ends (h : EndsNumber rest) : scanFraction rest = some (none, rest) := by
  cases rest with
  | nil =>
      rfl
  | cons c cs =>
      rw [scanFraction]
      intro r hr
      exact (h c rfl).2.1 (List.cons.inj hr).1

theorem scanPower_of_ends (h : EndsNumber rest) : scanPower rest = some (none, rest) := by
  cases rest with
  | nil =>
      rfl
  | cons c cs =>
      rcases h c rfl with ⟨_, _, he, hE⟩
      simp [scanPower, he, hE]

theorem head?_toDigits_ne {n : Nat} (hn : 0 < n) : (Nat.toDigits 10 n).head? ≠ some '0' := by
  induction n using Nat.strong_induction_on with
  | _ n ih =>
      by_cases hlt : n < 10
      · rw [Nat.toDigits_of_lt_base hlt]
        interval_cases n <;> decide
      · rw [Nat.toDigits_of_base_le (by decide) (by omega),
          List.head?_append_of_ne_nil _ Nat.toDigits_ne_nil]
        exact ih (n / 10) (by omega) (by omega)

theorem scanWhole_toDigits (n : Nat) (h : EndsNumber rest) :
    scanWhole (Nat.toDigits 10 n ++ rest) = some (Nat.toDigits 10 n, rest) := by
  rcases Nat.eq_zero_or_pos n with rfl | hn
  · rfl
  · have hspan := spanDigits_append
      (fun c hc => Nat.isDigit_of_mem_toDigits (b := 10) (n := n) (by decide) (by decide) hc) h
    rw [scanWhole, hspan]
    · simp [Nat.toDigits_ne_nil]
    · intro r hr
      have hhead := congrArg List.head? hr
      rw [List.head?_append_of_ne_nil _ Nat.toDigits_ne_nil] at hhead
      exact head?_toDigits_ne hn hhead

theorem exists_cons_toDigits (n : Nat) :
    exists c cs, Nat.toDigits 10 n = c :: cs ∧ c.isDigit = true := by
  rcases List.exists_cons_of_ne_nil (Nat.toDigits_ne_nil (n := n) (b := 10)) with ⟨c, cs, hcons⟩
  refine ⟨c, cs, hcons, Nat.isDigit_of_mem_toDigits (b := 10) (n := n) (by decide) (by decide) ?_⟩
  rw [hcons]
  exact List.mem_cons_self

def wholeParts (negative : Bool) (n : Nat) : NumberParts :=
  ⟨negative, Nat.toDigits 10 n, none, none⟩

def wholeChars (negative : Bool) (n : Nat) : List Char :=
  if negative then '-' :: Nat.toDigits 10 n else Nat.toDigits 10 n

theorem scanNumber_whole (negative : Bool) (n : Nat) (h : EndsNumber rest) :
    scanNumber (wholeChars negative n ++ rest) =
      some ((wholeParts negative n).value, rest) := by
  have hwhole := scanWhole_toDigits n h
  cases negative with
  | true =>
      change scanNumber ('-' :: (Nat.toDigits 10 n ++ rest)) = _
      simp only [scanNumber, hwhole, scanFraction_of_ends h, scanPower_of_ends h]
      rfl
  | false =>
      rcases exists_cons_toDigits n with ⟨c, cs, hcons, hdigit⟩
      have hminus : c ≠ '-' := by
        rintro rfl
        exact absurd hdigit (by decide)
      change scanNumber (Nat.toDigits 10 n ++ rest) = _
      rw [hcons, List.cons_append] at hwhole ⊢
      simp [scanNumber, hminus, hwhole, scanFraction_of_ends h, scanPower_of_ends h,
        wholeParts, hcons]

/-!
## Values of whole numbers
-/

theorem takeDigits_append {word taken w t : Nat} {ds : List Char} (es : List Char)
    (h : takeDigits word taken ds = (w, t, [])) :
    takeDigits word taken (ds ++ es) = takeDigits w t es := by
  induction ds generalizing word taken with
  | nil =>
      cases h
      rfl
  | cons d ds ih =>
      rw [List.cons_append, takeDigits]
      rw [takeDigits] at h
      split at h
      · rw [if_pos ‹_›]
        exact ih h
      · cases h

theorem takeDigits_digitChar {word taken d : Nat} (hd : d < 10)
    (hfits : word * 10 + d < wordLimit) :
    takeDigits word taken [Nat.digitChar d] = (word * 10 + d, taken + 1, []) := by
  have hvalue : (Nat.digitChar d).toNat - '0'.toNat = d := by
    rw [Nat.toNat_digitChar_of_lt_ten hd]
    change 48 + d - 48 = d
    omega
  simp only [takeDigits, hvalue, if_pos hfits]

theorem takeDigits_toDigits {n : Nat} (hn : n < wordLimit) :
    exists taken, takeDigits 0 0 (Nat.toDigits 10 n) = (n, taken, []) := by
  induction n using Nat.strong_induction_on with
  | _ n ih =>
      by_cases hlt : n < 10
      · rw [Nat.toDigits_of_lt_base hlt]
        have hfirst : takeDigits 0 0 [Nat.digitChar n] = (0 * 10 + n, 0 + 1, []) :=
          takeDigits_digitChar hlt (by omega)
        rw [Nat.zero_mul, Nat.zero_add] at hfirst
        exact ⟨_, hfirst⟩
      · rcases ih (n / 10) (by omega) (by omega) with ⟨taken, hfront⟩
        have hsum : n / 10 * 10 + n % 10 = n := by omega
        rw [Nat.toDigits_of_base_le (by decide) (by omega), takeDigits_append _ hfront,
          takeDigits_digitChar (by omega) (by omega), hsum]
        exact ⟨_, rfl⟩

theorem value_wholeParts {n : Nat} (hn : n < wordLimit) :
    (wholeParts false n).value = .integer n := by
  rcases takeDigits_toDigits hn with ⟨taken, hdigits⟩
  simp [NumberParts.value, wholeParts, hdigits]

theorem value_wholeParts_negative {n : Nat} (hpos : 0 < n) (hn : n ≤ Nat.pow 2 63) :
    (wholeParts true n).value = .integer (-(n : Int)) := by
  have hlimit : n < wordLimit := Nat.lt_of_le_of_lt hn (by decide)
  rcases takeDigits_toDigits hlimit with ⟨taken, hdigits⟩
  have hne : n ≠ 0 := by omega
  simp [NumberParts.value, wholeParts, hdigits, hne, -Nat.pow_eq, hn]

/-!
## Lexemes and their tokens
-/

inductive Lexeme where
  | openObject
  | closeObject
  | openArray
  | closeArray
  | colon
  | comma
  | null
  | bool (b : Bool)
  | whole (negative : Bool) (n : Nat)
  | text (units : List TextUnit)

namespace Lexeme

def chars : Lexeme -> List Char
  | openObject => ['\x7b']
  | closeObject => ['\x7d']
  | openArray => ['[']
  | closeArray => [']']
  | colon => [':']
  | comma => [',']
  | null => "null".toList
  | bool true => "true".toList
  | bool false => "false".toList
  | whole negative n => wholeChars negative n
  | text units => '"' :: units.flatMap TextUnit.chars ++ ['"']

def token : Lexeme -> Token
  | openObject => .openObject
  | closeObject => .closeObject
  | openArray => .openArray
  | closeArray => .closeArray
  | colon => .colon
  | comma => .comma
  | null => .null
  | bool b => .bool b
  | whole negative n => .number (wholeParts negative n).value
  | text units => .text (textValue (units.map TextUnit.piece))

end Lexeme

def Token.isNumber : Token -> Bool
  | .number _ => true
  | _ => false

theorem scanToken_of_number {c : Char} {cs : List Char} (hc : c = '-' ∨ c.isDigit = true) :
    scanToken (c :: cs) = (scanNumber (c :: cs)).map fun (n, rest) => (.number n, rest) := by
  have hother : forall x : Char, x ≠ '-' -> x.isDigit = false -> c ≠ x := by
    rintro x hminus hdigit rfl
    rcases hc with rfl | hc
    · exact hminus rfl
    · simp [hdigit] at hc
  rw [scanToken]
  all_goals
    intros
    rename_i heq
    exact hother _ (by decide) (by decide) (List.cons.inj heq).1

theorem wholeChars_eq_cons (negative : Bool) (n : Nat) :
    exists c cs, wholeChars negative n = c :: cs ∧ (c = '-' ∨ c.isDigit = true) := by
  rcases exists_cons_toDigits n with ⟨c, cs, hcons, hdigit⟩
  cases negative with
  | true =>
      exact ⟨'-', _, rfl, Or.inl rfl⟩
  | false =>
      exact ⟨c, cs, hcons, Or.inr hdigit⟩

theorem not_isSpace_of_number {c : Char} (hc : c = '-' ∨ c.isDigit = true) :
    isSpace c = false := by
  rcases hc with rfl | hc
  · decide
  · by_contra hspace
    rw [Bool.not_eq_false, isSpace] at hspace
    simp only [Bool.or_eq_true, decide_eq_true_eq] at hspace
    rcases hspace with ((rfl | rfl) | rfl) | rfl <;> exact absurd hc (by decide)

namespace Lexeme

theorem exists_cons_chars (l : Lexeme) :
    exists c cs, l.chars = c :: cs ∧ isSpace c = false ∧
      (l.token.isNumber = false -> c.isDigit = false ∧ c ≠ '.' ∧ c ≠ 'e' ∧ c ≠ 'E') := by
  cases l with
  | whole negative n =>
      rcases wholeChars_eq_cons negative n with ⟨c, cs, hcons, hc⟩
      exact ⟨c, cs, hcons, not_isSpace_of_number hc, fun h => by cases h⟩
  | bool b =>
      cases b <;> exact ⟨_, _, rfl, by decide, fun _ => by decide⟩
  | _ =>
      exact ⟨_, _, rfl, by decide, fun _ => by decide⟩

theorem scanToken {rest : List Char} (l : Lexeme)
    (hend : l.token.isNumber = true -> EndsNumber rest) :
    Json.scanToken (l.chars ++ rest) = some (l.token, rest) := by
  cases l with
  | whole negative n =>
      rcases wholeChars_eq_cons negative n with ⟨c, cs, hcons, hc⟩
      have hnumber := scanNumber_whole negative n (hend rfl)
      change Json.scanToken (wholeChars negative n ++ rest) = _
      rw [hcons, List.cons_append] at hnumber ⊢
      rw [scanToken_of_number hc, hnumber]
      rfl
  | text units =>
      have htext := scanText_units units rest
      change Json.scanToken ('"' :: (units.flatMap TextUnit.chars ++ ['"']) ++ rest) = _
      rw [List.cons_append, List.append_assoc, List.singleton_append, Json.scanToken, htext]
      rfl
  | bool b =>
      cases b <;> rfl
  | _ =>
      rfl

end Lexeme

/-!
## Texts made of lexemes
-/

def Blank (cs : List Char) : Prop := forall c, c ∈ cs -> isSpace c = true

inductive Laid : List Lexeme -> List Char -> Prop where
  | nil {blank : List Char} (hblank : Blank blank) : Laid [] blank
  | cons {blank cs : List Char} {l : Lexeme} {ls : List Lexeme} (hblank : Blank blank)
      (hrest : Laid ls cs) : Laid (l :: ls) (blank ++ (l.chars ++ cs))

/-- No two numbers stand side by side. -/
def Apart (ts : List Token) : Prop :=
  ts.IsChain fun a b => a.isNumber = false ∨ b.isNumber = false

theorem endsNumber_of_isSpace {c : Char} (hc : isSpace c = true) (cs : List Char) :
    EndsNumber (c :: cs) := by
  intro d hd
  cases hd
  simp only [isSpace, Bool.or_eq_true, decide_eq_true_eq] at hc
  rcases hc with ((rfl | rfl) | rfl) | rfl <;> decide

namespace Laid

variable {ls : List Lexeme} {cs : List Char}

theorem endsNumber (h : Laid ls cs)
    (hnext : forall l, l ∈ ls.head? -> l.token.isNumber = false) : EndsNumber cs := by
  cases h with
  | nil hblank =>
      cases cs with
      | nil =>
          intro c hc
          cases hc
      | cons c blank =>
          exact endsNumber_of_isSpace (hblank c List.mem_cons_self) blank
  | @cons blank rest l ls hblank hrest =>
      cases blank with
      | nil =>
          rcases l.exists_cons_chars with ⟨c, cs, hcons, _, hc⟩
          rw [List.nil_append, hcons]
          intro d hd
          cases hd
          exact hc (hnext l rfl)
      | cons c blank =>
          exact endsNumber_of_isSpace (hblank c List.mem_cons_self) _

/-- Each lexeme is read as one token, and the white space is skipped. -/
theorem scanTokens (h : Laid ls cs) (hapart : Apart (ls.map Lexeme.token)) {fuel : Nat}
    (hfuel : ls.length ≤ fuel) : Json.scanTokens fuel cs = some (ls.map Lexeme.token) := by
  induction h generalizing fuel with
  | @nil blank hblank =>
      have hskip : blank.dropWhile isSpace = [] := List.dropWhile_eq_nil_iff.mpr hblank
      unfold Json.scanTokens
      rw [hskip]
      rfl
  | @cons blank rest l ls hblank hrest ih =>
      rcases l.exists_cons_chars with ⟨c, cs, hcons, hspace, _⟩
      have hskip : (blank ++ (l.chars ++ rest)).dropWhile isSpace = c :: (cs ++ rest) := by
        rw [List.dropWhile_append_of_pos hblank, hcons, List.cons_append,
          List.dropWhile_cons_of_neg (by simp [hspace])]
      have hend : l.token.isNumber = true -> EndsNumber rest := by
        intro hnumber
        refine hrest.endsNumber ?_
        intro next hnext
        rcases List.head?_eq_some_iff.mp hnext with ⟨ls', rfl⟩
        rcases (List.isChain_cons_cons.mp hapart).1 with hl | hnext
        · rw [hl] at hnumber
          cases hnumber
        · exact hnext
      have htoken := l.scanToken hend
      rw [hcons, List.cons_append] at htoken
      have hsome : 0 < fuel := by
        simp only [List.length_cons] at hfuel
        omega
      rcases Nat.exists_eq_succ_of_ne_zero (Nat.ne_of_gt hsome) with ⟨fuel, rfl⟩
      have hrest := ih hapart.tail (Nat.le_of_succ_le_succ hfuel)
      unfold Json.scanTokens
      rw [hskip]
      simp only [htoken, hrest]
      rfl

theorem length_le (h : Laid ls cs) : ls.length ≤ cs.length := by
  induction h with
  | nil hblank =>
      exact Nat.zero_le _
  | @cons blank rest l ls hblank hrest ih =>
      rcases l.exists_cons_chars with ⟨c, cs, hcons, _⟩
      simp only [List.length_cons, List.length_append, hcons]
      omega

theorem tokens (h : Laid ls cs) (hapart : Apart (ls.map Lexeme.token)) :
    Json.tokens cs = some (ls.map Lexeme.token) :=
  h.scanTokens hapart h.length_le

theorem of_flatMap (ls : List Lexeme) : Laid ls (ls.flatMap Lexeme.chars) := by
  have hnone : Blank [] := fun c hc => by cases hc
  induction ls with
  | nil =>
      exact nil hnone
  | cons l ls ih =>
      exact cons hnone ih

end Laid

end Json
end PoolHealth

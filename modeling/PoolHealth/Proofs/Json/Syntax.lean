import PoolHealth.Json.Document
import PoolHealth.Proofs.Json.Lexemes

/-!
# Texts of documents

A document is written with tokens: the brackets around its items and members, commas
between them, and a colon behind each name.  A text spells a document if it consists
of lexemes for these tokens, with any white space around them.  Whoever reads such a
text gets the document back.
-/

namespace PoolHealth
namespace Json

/-!
## Tokens of a document
-/

def separator (first : Bool) : List Token := if first then [] else [.comma]

mutual

def Document.tokens : Document -> List Token
  | .null => [.null]
  | .bool b => [.bool b]
  | .number n => [.number n]
  | .text s => [.text s]
  | .array items => .openArray :: itemTokens true items
  | .object members => .openObject :: memberTokens true members

def itemTokens (first : Bool) : List Document -> List Token
  | [] => [.closeArray]
  | item :: rest => separator first ++ (item.tokens ++ itemTokens false rest)

def memberTokens (first : Bool) : List (Option String × Document) -> List Token
  | [] => [.closeObject]
  | (key, value) :: rest =>
      separator first ++ (.text key :: .colon :: (value.tokens ++ memberTokens false rest))

end

theorem itemTokens_true (item : Document) (items : List Document) :
    itemTokens true (item :: items) = item.tokens ++ itemTokens false items :=
  rfl

theorem itemTokens_false (item : Document) (items : List Document) :
    itemTokens false (item :: items) = .comma :: itemTokens true (item :: items) :=
  rfl

theorem memberTokens_true (key : Option String) (value : Document)
    (members : List (Option String × Document)) :
    memberTokens true ((key, value) :: members) =
      .text key :: .colon :: (value.tokens ++ memberTokens false members) :=
  rfl

theorem memberTokens_false (member : Option String × Document)
    (members : List (Option String × Document)) :
    memberTokens false (member :: members) = .comma :: memberTokens true (member :: members) :=
  rfl

theorem Document.tokens_eq_cons (d : Document) :
    exists t ts, d.tokens = t :: ts ∧ t ≠ .closeArray := by
  cases d <;> exact ⟨_, _, rfl, by intro h; cases h⟩

/-!
## Reading the tokens back

The fuel of the reader is enough if there is one unit for each token.
-/

mutual

theorem parseValue_tokens (d : Document) (fuel : Nat) (rest : List Token)
    (hfuel : d.tokens.length ≤ fuel) :
    parseValue fuel (d.tokens ++ rest) = some (d, rest) := by
  match d, fuel with
  | .null, fuel + 1 =>
      rfl
  | .bool b, fuel + 1 =>
      rfl
  | .number n, fuel + 1 =>
      rfl
  | .text s, fuel + 1 =>
      rfl
  | .array [], fuel + 1 =>
      rfl
  | .array (item :: items), fuel + 1 =>
      have hitems := parseItems_tokens item items fuel rest (Nat.le_of_succ_le_succ hfuel)
      rcases item.tokens_eq_cons with ⟨t, ts, hcons, hclose⟩
      rw [itemTokens_true, hcons, List.cons_append, List.cons_append] at hitems
      rw [Document.tokens, itemTokens_true, hcons, List.cons_append, List.cons_append,
        List.cons_append, parseValue]
      · rw [hitems]
      · intro r hr
        exact hclose (List.cons.inj hr).1
  | .object [], fuel + 1 =>
      rfl
  | .object ((key, value) :: members), fuel + 1 =>
      have hmembers := parseMembers_tokens key value members fuel rest
        (Nat.le_of_succ_le_succ hfuel)
      rw [memberTokens_true, List.cons_append] at hmembers
      rw [Document.tokens, memberTokens_true, List.cons_append, List.cons_append, parseValue]
      · rw [hmembers]
      · intro r hr
        cases (List.cons.inj hr).1

theorem parseItems_tokens (item : Document) (items : List Document) (fuel : Nat)
    (rest : List Token) (hfuel : (itemTokens true (item :: items)).length ≤ fuel) :
    parseItems fuel (itemTokens true (item :: items) ++ rest) =
      some (item :: items, rest) := by
  match items, fuel with
  | [], 0 =>
      simp [itemTokens] at hfuel
  | [], fuel + 1 =>
      rw [itemTokens_true, List.length_append] at hfuel
      have hitem := parseValue_tokens item fuel (.closeArray :: rest) (by
        simp only [itemTokens, List.length_singleton] at hfuel
        omega)
      rw [itemTokens_true, List.append_assoc]
      simp only [itemTokens, List.singleton_append, parseItems, hitem]
  | next :: items, 0 =>
      simp [itemTokens, separator] at hfuel
  | next :: items, fuel + 1 =>
      rw [itemTokens_true, itemTokens_false, List.length_append, List.length_cons] at hfuel
      have hitem := parseValue_tokens item fuel
        (.comma :: (itemTokens true (next :: items) ++ rest)) (by omega)
      have hitems := parseItems_tokens next items fuel rest (by omega)
      rw [itemTokens_true, itemTokens_false, List.append_assoc, List.cons_append]
      simp only [parseItems, hitem, hitems]

theorem parseMembers_tokens (key : Option String) (value : Document)
    (members : List (Option String × Document)) (fuel : Nat) (rest : List Token)
    (hfuel : (memberTokens true ((key, value) :: members)).length ≤ fuel) :
    parseMembers fuel (memberTokens true ((key, value) :: members) ++ rest) =
      some ((key, value) :: members, rest) := by
  rw [memberTokens_true, List.length_cons, List.length_cons, List.length_append] at hfuel
  match members, fuel with
  | [], fuel + 1 =>
      have hvalue := parseValue_tokens value fuel (.closeObject :: rest) (by omega)
      rw [memberTokens_true, List.cons_append, List.cons_append, List.append_assoc]
      simp only [memberTokens, List.singleton_append, parseMembers, hvalue]
  | (nextKey, nextValue) :: members, fuel + 1 =>
      rw [memberTokens_false, List.length_cons] at hfuel
      have hvalue := parseValue_tokens value fuel
        (.comma :: (memberTokens true ((nextKey, nextValue) :: members) ++ rest)) (by omega)
      have hmembers := parseMembers_tokens nextKey nextValue members fuel rest (by omega)
      rw [memberTokens_true, memberTokens_false, List.cons_append, List.cons_append,
        List.append_assoc, List.cons_append]
      simp only [parseMembers, hvalue, hmembers]

end

/-!
## Numbers never stand side by side
-/

theorem Apart.append_cons {ts us : List Token} {t : Token} (ht : t.isNumber = false)
    (hts : Apart ts) (hus : Apart us) : Apart (ts ++ t :: us) := by
  refine List.isChain_append.mpr ⟨hts, List.isChain_cons.mpr ⟨?_, hus⟩, ?_⟩
  · intro u hu
    exact Or.inl ht
  · intro s hs u hu
    cases hu
    exact Or.inr ht

theorem Apart.cons {t : Token} {ts : List Token} (ht : t.isNumber = false) (hts : Apart ts) :
    Apart (t :: ts) := by
  exact Apart.append_cons ht List.isChain_nil hts

mutual

theorem Document.apart_tokens (d : Document) : Apart d.tokens := by
  match d with
  | .null | .bool _ | .number _ | .text _ =>
      exact List.isChain_singleton _
  | .array items =>
      exact (apart_itemTokens items).cons rfl
  | .object members =>
      exact (apart_memberTokens members).cons rfl

theorem apart_itemTokens (items : List Document) : Apart (itemTokens true items) := by
  match items with
  | [] =>
      exact List.isChain_singleton _
  | [item] =>
      exact Apart.append_cons rfl item.apart_tokens List.isChain_nil
  | item :: next :: items =>
      exact Apart.append_cons rfl item.apart_tokens (apart_itemTokens (next :: items))

theorem apart_memberTokens (members : List (Option String × Document)) :
    Apart (memberTokens true members) := by
  match members with
  | [] =>
      exact List.isChain_singleton _
  | [(key, value)] =>
      have hvalue := Apart.append_cons (t := .closeObject) rfl value.apart_tokens List.isChain_nil
      exact (hvalue.cons rfl).cons rfl
  | (key, value) :: next :: members =>
      have hvalue := Apart.append_cons (t := .comma) rfl value.apart_tokens
        (apart_memberTokens (next :: members))
      exact (hvalue.cons rfl).cons rfl

end

/-!
## Texts that spell a document
-/

def Document.Spells (d : Document) (text : String) : Prop :=
  exists ls : List Lexeme, ls.map Lexeme.token = d.tokens ∧ Laid ls text.toList

theorem Document.parse?_of_spells {d : Document} {text : String} (h : d.Spells text) :
    Document.parse? text = some d := by
  rcases h with ⟨ls, htokens, hlaid⟩
  have hscan := hlaid.tokens (by
    rw [htokens]
    exact d.apart_tokens)
  rw [htokens] at hscan
  have hparse := parseValue_tokens d (d.tokens.length + 1) [] (Nat.le_succ _)
  rw [List.append_nil] at hparse
  simp only [Document.parse?, hscan, hparse]

end Json
end PoolHealth

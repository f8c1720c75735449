import PoolHealth.Json.Printer
import PoolHealth.Proofs.Json.Syntax

/-!
# Written values

A value is written as a text that spells its document.  This holds for values without
floating-point numbers, whose whole numbers fit into 64 bits: every other number is
read as a floating-point number.
-/

namespace PoolHealth
namespace Json

/-!
## Documents of values
-/

mutual

def document : Json -> Document
  | .null => .null
  | .bool b => .bool b
  | .integer n => .number (.integer n)
  | .real x => .number (.real x)
  | .text s => .text (some s)
  | .array items => .array (itemDocuments items)
  | .object members => .object (memberDocuments members)

def itemDocuments : List Json -> List Document
  | [] => []
  | item :: rest => item.document :: itemDocuments rest

def memberDocuments : List (String × Json) -> List (Option String × Document)
  | [] => []
  | (key, value) :: rest => (some key, value.document) :: memberDocuments rest

end

theorem memberDocuments_eq_map (members : List (String × Json)) :
    memberDocuments members = members.map fun m => (some m.1, m.2.document) := by
  induction members with
  | nil =>
      rfl
  | cons m members ih =>
      rw [memberDocuments, ih, List.map_cons]

mutual

/-- No floating-point number, and no whole number that would be read as one. -/
def Whole : Json -> Prop
  | .null | .bool _ | .text _ => True
  | .integer n => -(2 ^ 63) ≤ n ∧ n < 2 ^ 64
  | .real _ => False
  | .array items => WholeItems items
  | .object members => WholeMembers members

def WholeItems : List Json -> Prop
  | [] => True
  | item :: rest => item.Whole ∧ WholeItems rest

def WholeMembers : List (String × Json) -> Prop
  | [] => True
  | (_, value) :: rest => value.Whole ∧ WholeMembers rest

end

/-!
## Texts and numbers
-/

theorem hexValue?_hexDigit : forall n, n < 16 -> hexValue? (hexDigit n) = some n := by
  decide

theorem exists_unit_of_control {c : Char} (hc : c.toNat < 0x20) :
    exists u : TextUnit, u.piece = .char c ∧
      u.chars = ['\\', 'u', '0', '0', hexDigit (c.toNat / 16), hexDigit (c.toNat % 16)] := by
  have hcode : hexValue4? '0' '0' (hexDigit (c.toNat / 16)) (hexDigit (c.toNat % 16)) =
      some c.toNat := by
    have hzero : hexValue? '0' = some 0 := by decide
    have hsum : ((0 * 16 + 0) * 16 + c.toNat / 16) * 16 + c.toNat % 16 = c.toNat := by omega
    rw [hexValue4?, hzero, hexValue?_hexDigit _ (by omega), hexValue?_hexDigit _ (by omega)]
    exact congrArg some hsum
  have hpiece : Piece.ofEscape c.toNat = .char c := by
    have hhigh : isHighSurrogate c.toNat = false := by
      simp only [isHighSurrogate, Bool.and_eq_false_iff, decide_eq_false_iff_not]
      omega
    have hlow : isLowSurrogate c.toNat = false := by
      simp only [isLowSurrogate, Bool.and_eq_false_iff, decide_eq_false_iff_not]
      omega
    simp [Piece.ofEscape, hhigh, hlow, Char.ofNat_toNat]
  exact ⟨.code '0' '0' _ _ _ hcode, hpiece, rfl⟩

theorem exists_unit (c : Char) :
    exists u : TextUnit, u.piece = .char c ∧ u.chars = escapeChar c := by
  unfold escapeChar
  split_ifs with hquote hslash hb hf hn hr ht hlow
  · exact ⟨.short '"' '"' rfl, by rw [hquote]; rfl, rfl⟩
  · exact ⟨.short '\\' '\\' rfl, by rw [hslash]; rfl, rfl⟩
  · exact ⟨.short 'b' '\x08' rfl, by rw [hb]; rfl, rfl⟩
  · exact ⟨.short 'f' '\x0c' rfl, by rw [hf]; rfl, rfl⟩
  · exact ⟨.short 'n' '\n' rfl, by rw [hn]; rfl, rfl⟩
  · exact ⟨.short 'r' '\r' rfl, by rw [hr]; rfl, rfl⟩
  · exact ⟨.short 't' '\t' rfl, by rw [ht]; rfl, rfl⟩
  · exact exists_unit_of_control hlow
  · exact ⟨.plain c ⟨hquote, hslash, Nat.not_lt.mp hlow⟩, rfl, rfl⟩

theorem exists_units (cs : List Char) :
    exists us : List TextUnit,
      us.map TextUnit.piece = cs.map .char ∧ us.flatMap TextUnit.chars = cs.flatMap escapeChar := by
  induction cs with
  | nil =>
      exact ⟨[], rfl, rfl⟩
  | cons c cs ih =>
      rcases exists_unit c with ⟨u, hpiece, hchars⟩
      rcases ih with ⟨us, hpieces, hall⟩
      refine ⟨u :: us, ?_, ?_⟩
      · rw [List.map_cons, List.map_cons, hpiece, hpieces]
      · rw [List.flatMap_cons, List.flatMap_cons, hchars, hall]

theorem joinPieces_chars (cs : List Char) : joinPieces (cs.map .char) = some cs := by
  induction cs with
  | nil =>
      rfl
  | cons c cs ih =>
      simp [joinPieces, ih]

theorem exists_lexeme_of_text (s : String) :
    exists l : Lexeme, l.token = .text (some s) ∧ l.chars = writeText s := by
  rcases exists_units s.toList with ⟨us, hpieces, hchars⟩
  refine ⟨.text us, ?_, ?_⟩
  · have hvalue : textValue (us.map TextUnit.piece) = some s := by
      rw [textValue, hpieces, joinPieces_chars, Option.map_some, String.ofList_toList]
    exact congrArg Token.text hvalue
  · rw [Lexeme.chars, hchars]
    rfl

theorem exists_lexeme_of_integer {n : Int} (hlow : -(2 ^ 63) ≤ n) (hhigh : n < 2 ^ 64) :
    exists l : Lexeme, l.token = .number (.integer n) ∧ l.chars = writeInteger n := by
  by_cases hneg : n < 0
  · have hvalue : (wholeParts true n.natAbs).value = .integer n := by
      have hbound : n.natAbs ≤ Nat.pow 2 63 := by
        change n.natAbs ≤ 2 ^ 63
        omega
      rw [value_wholeParts_negative (by omega) hbound]
      congr 1
      omega
    refine ⟨.whole true n.natAbs, congrArg Token.number hvalue, ?_⟩
    rw [writeInteger, if_pos hneg]
    rfl
  · have hvalue : (wholeParts false n.natAbs).value = .integer n := by
      have hbound : n.natAbs < wordLimit := by
        change n.natAbs < 2 ^ 64
        omega
      rw [value_wholeParts hbound]
      congr 1
      omega
    refine ⟨.whole false n.natAbs, congrArg Token.number hvalue, ?_⟩
    rw [writeInteger, if_neg hneg]
    rfl

/-!
## Values
-/

def Writes (ts : List Token) (cs : List Char) : Prop :=
  exists ls : List Lexeme, ls.map Lexeme.token = ts ∧ ls.flatMap Lexeme.chars = cs

namespace Writes

theorem single (l : Lexeme) : Writes [l.token] l.chars :=
  ⟨[l], rfl, List.append_nil _⟩

theorem append {ts us : List Token} {cs ds : List Char} (h : Writes ts cs) (k : Writes us ds) :
    Writes (ts ++ us) (cs ++ ds) := by
  rcases h with ⟨ls, htokens, hchars⟩
  rcases k with ⟨ms, ktokens, kchars⟩
  exact ⟨ls ++ ms, by rw [List.map_append, htokens, ktokens],
    by rw [List.flatMap_append, hchars, kchars]⟩

theorem cons {us : List Token} {ds : List Char} (l : Lexeme) (k : Writes us ds) :
    Writes (l.token :: us) (l.chars ++ ds) :=
  (single l).append k

theorem separator (first : Bool) : Writes (Json.separator first) (if first then [] else [',']) := by
  cases first with
  | true =>
      exact ⟨[], rfl, rfl⟩
  | false =>
      exact single .comma

end Writes

mutual

theorem writes_document (j : Json) (h : j.Whole) : Writes j.document.tokens j.write := by
  match j with
  | .null =>
      exact Writes.single .null
  | .bool true =>
      exact Writes.single (.bool true)
  | .bool false =>
      exact Writes.single (.bool false)
  | .integer n =>
      rcases exists_lexeme_of_integer h.1 h.2 with ⟨l, htoken, hchars⟩
      rw [document, Document.tokens, write, ← htoken, ← hchars]
      exact Writes.single l
  | .real x =>
      exact h.elim
  | .text s =>
      rcases exists_lexeme_of_text s with ⟨l, htoken, hchars⟩
      rw [document, Document.tokens, write, ← htoken, ← hchars]
      exact Writes.single l
  | .array items =>
      exact (writes_items true items h).cons .openArray
  | .object members =>
      exact (writes_members true members h).cons .openObject

theorem writes_items (first : Bool) (items : List Json) (h : WholeItems items) :
    Writes (itemTokens first (itemDocuments items)) (writeItems first items ++ [']']) := by
  match items with
  | [] =>
      exact Writes.single .closeArray
  | item :: rest =>
      have hitem := writes_document item h.1
      have hrest := writes_items false rest h.2
      rw [itemDocuments, itemTokens, writeItems, List.append_assoc, List.append_assoc]
      exact (Writes.separator first).append (hitem.append hrest)

theorem writes_members (first : Bool) (members : List (String × Json))
    (h : WholeMembers members) :
    Writes (memberTokens first (memberDocuments members))
      (writeMembers first members ++ ['\x7d']) := by
  match members with
  | [] =>
      exact Writes.single .closeObject
  | (key, value) :: rest =>
      rcases exists_lexeme_of_text key with ⟨l, htoken, hchars⟩
      have hvalue := writes_document value h.1
      have hrest := writes_members false rest h.2
      have hmember := ((hvalue.append hrest).cons .colon).cons l
      rw [htoken, hchars] at hmember
      have hall := (Writes.separator first).append hmember
      simpa [memberDocuments, memberTokens, writeMembers, Lexeme.token, Lexeme.chars] using hall

end

theorem spells_render {j : Json} (h : j.Whole) : j.document.Spells j.render := by
  rcases writes_document j h with ⟨ls, htokens, hchars⟩
  refine ⟨ls, htokens, ?_⟩
  rw [render, String.toList_ofList, ← hchars]
  exact Laid.of_flatMap ls

/-- What is written is read as it was. -/
theorem parse?_render {j : Json} (h : j.Whole) : Document.parse? j.render = some j.document :=
  Document.parse?_of_spells (spells_render h)

end Json
end PoolHealth

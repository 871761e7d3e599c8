import IndexGateway.Json.Outline
import IndexGateway.Json.Printer
import IndexGateway.Proofs.Json.Shape

/-!
# Texts between quotes

A text that is written between quotes is read back as it was, whatever stands behind
the closing quote. Writing takes one character at a time, so the proof does too:
`pieces_escapeChar` says what becomes of each written character when it is read, and
`joinPieces_pieceOf` puts the parts together again.
-/

namespace IndexGateway.Json

open Outline Text

/-- The part of a text that the written form of a character is read as: a unit if it was written by
a numeric escape. -/
def pieceOf (c : Char) : Piece :=
  if c < ' ' ∧ (escapeChar c).length = 6 then .unit c.toNat else .char c

theorem hexValue_control : ∀ n < 32,
    Numeral.hexValue ['0', '0', Nat.digitChar (n / 16), Nat.digitChar (n % 16)] = some n := by
  decide

theorem toNat_lt_of_lt_space {c : Char} (h : c < ' ') : c.toNat < 32 := h

/-- A short escape is read as the character that it stands for. -/
theorem pieces_short {c e : Char} (h : escaped? c = some e) (rest : List Char) :
    pieces ('\\' :: c :: rest) = (pieces rest).map fun p => (.char e :: p.1, p.2) := by
  have hc : c ≠ 'u' := by
    rintro rfl
    cases h
  rw [pieces.eq_def]
  split
  · next heq => cases heq
  · next heq => cases heq
  · next heq => exact absurd (List.cons.inj (List.cons.inj heq).2).1 hc
  · next heq =>
    obtain ⟨rfl, rfl⟩ := List.cons.inj (List.cons.inj heq).2
    rw [h]
    cases pieces rest <;> rfl
  · next _ hshort heq =>
    obtain ⟨rfl, rfl⟩ := List.cons.inj heq
    exact (hshort c rest rfl rfl).elim

/-- A numeric escape is read as a unit. -/
theorem pieces_unit {a b c d : Char} {n : Nat} (h : Numeral.hexValue [a, b, c, d] = some n)
    (rest : List Char) :
    pieces ('\\' :: 'u' :: a :: b :: c :: d :: rest) =
      (pieces rest).map fun p => (.unit n :: p.1, p.2) := by
  rw [pieces, h]
  cases pieces rest <;> rfl

/-- A character that needs no escape is read as itself. -/
theorem pieces_plain {c : Char} (hquote : c ≠ '"') (hback : c ≠ '\\') (hspace : ¬ c < ' ')
    (rest : List Char) : pieces (c :: rest) = (pieces rest).map fun p => (.char c :: p.1, p.2) := by
  rw [pieces.eq_def]
  split
  · next h => cases h
  · next h => exact absurd (List.cons.inj h).1 hquote
  · next h => exact absurd (List.cons.inj h).1 hback
  · next h => exact absurd (List.cons.inj h).1 hback
  · next h =>
    obtain ⟨rfl, rfl⟩ := List.cons.inj h
    rw [if_neg hspace]
    cases pieces rest <;> rfl

/-- The written form of one character is read as one part. -/
theorem pieces_escapeChar (c : Char) (rest : List Char) :
    pieces (escapeChar c ++ rest) = (pieces rest).map fun p => (pieceOf c :: p.1, p.2) := by
  by_cases h1 : c = '"'
  · subst h1
    exact pieces_short rfl rest
  by_cases h2 : c = '\\'
  · subst h2
    exact pieces_short rfl rest
  by_cases h3 : c = '\x08'
  · subst h3
    exact pieces_short rfl rest
  by_cases h4 : c = '\t'
  · subst h4
    exact pieces_short rfl rest
  by_cases h5 : c = '\n'
  · subst h5
    exact pieces_short rfl rest
  by_cases h6 : c = '\x0c'
  · subst h6
    exact pieces_short rfl rest
  by_cases h7 : c = '\r'
  · subst h7
    exact pieces_short rfl rest
  by_cases h8 : c < ' '
  · have he : escapeChar c = ['\\', 'u', '0', '0', Nat.digitChar (c.toNat / 16),
        Nat.digitChar (c.toNat % 16)] := by
      simp only [escapeChar, h1, h2, h3, h4, h5, h6, h7, h8, if_false, if_true]
    have hp : pieceOf c = .unit c.toNat := by
      rw [pieceOf, he]
      simp [h8]
    rw [he, hp]
    exact pieces_unit (hexValue_control c.toNat (toNat_lt_of_lt_space h8)) rest
  · have he : escapeChar c = [c] := by
      simp only [escapeChar, h1, h2, h3, h4, h5, h6, h7, h8, if_false]
    have hp : pieceOf c = .char c := by
      rw [pieceOf]
      simp [h8]
    rw [he, hp]
    exact pieces_plain h1 h2 h8 rest

/-- A unit that is no half of a surrogate pair stands for a character of its own. -/
theorem joinPieces_unit {n : Nat} (h : n < 0xD800) (rest : List Piece) :
    joinPieces (.unit n :: rest) = (joinPieces rest).map (Char.ofNat n :: ·) := by
  have hlead : isLead n = false := by
    simp only [isLead, Bool.and_eq_false_iff, decide_eq_false_iff_not]
    omega
  have htrail : isTrail n = false := by
    simp only [isTrail, Bool.and_eq_false_iff, decide_eq_false_iff_not]
    omega
  match rest with
  | [] => simp [joinPieces, hlead, htrail]
  | .char d :: more => simp [joinPieces, hlead, htrail]
  | .unit m :: more => simp [joinPieces, hlead, htrail]

theorem joinPieces_pieceOf (cs : List Char) : joinPieces (cs.map pieceOf) = some cs := by
  induction cs with
  | nil => rfl
  | cons c cs ih =>
    rw [List.map_cons, pieceOf]
    split
    · next h =>
      have := toNat_lt_of_lt_space h.1
      rw [joinPieces_unit (by omega), ih, Char.ofNat_toNat]
      rfl
    · rw [joinPieces, ih]
      rfl

theorem pieces_flatMap_escapeChar (cs rest : List Char) :
    pieces (cs.flatMap escapeChar ++ '"' :: rest) = some (cs.map pieceOf, rest) := by
  induction cs with
  | nil => rfl
  | cons c cs ih =>
    rw [List.flatMap_cons, List.append_assoc, pieces_escapeChar, ih]
    rfl

/-- **A quoted text reads back**: what stands behind its opening quote is read as the text. -/
theorem readText_escaped (s : String) (rest : List Char) :
    readText (s.toList.flatMap escapeChar ++ '"' :: rest) = some (some s, rest) := by
  simp only [readText, pieces_flatMap_escapeChar, joinPieces_pieceOf, Option.map_some,
    String.ofList_toList]

theorem quote_append (s : String) (rest : List Char) :
    quote s ++ rest = '"' :: (s.toList.flatMap escapeChar ++ '"' :: rest) := by
  simp [quote]

/-- Quoted texts end by themselves, so what is behind one is known. -/
theorem quote_append_inj {s t : String} {rest rest' : List Char}
    (h : quote s ++ rest = quote t ++ rest') : s = t ∧ rest = rest' := by
  rw [quote_append, quote_append, List.cons.injEq] at h
  have hread := congrArg readText h.2
  rw [readText_escaped, readText_escaped] at hread
  simpa using hread

end IndexGateway.Json

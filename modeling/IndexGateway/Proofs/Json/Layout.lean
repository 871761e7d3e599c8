import IndexGateway.Json.Outline
import IndexGateway.Json.Printer

/-!
# Layouts

The compact and the pretty form of a value differ in blanks only: in what is put in
front of items and closing brackets, and in what is put behind colons. A `Layout`
says what that is. What is proved of the text of a value in any layout then holds of
both forms (`chars_eq_laid`, `prettyChars_eq_laid`).
-/

namespace IndexGateway.Json

/-- A text that holds blanks only. -/
def Blanks (text : List Char) : Prop := ∀ c ∈ text, Outline.isBlank c = true

/-- Where the blanks of a written value stand. -/
structure Layout where
  /-- What stands before an item, a field or a closing bracket at a depth. -/
  line : Nat → List Char
  /-- What stands behind a colon. -/
  gap : List Char
  /-- Lines are broken by blanks. -/
  line_blank : ∀ depth, Blanks (line depth)
  /-- Gaps are filled with blanks. -/
  gap_blank : Blanks gap

namespace Layout

/-- No blanks at all. -/
def compact : Layout where
  line _ := []
  gap := []
  line_blank _ _ h := nomatch h
  gap_blank _ h := nomatch h

/-- Every item and field on a line of its own. -/
def pretty : Layout where
  line := newLine
  gap := [' ']
  line_blank depth c h := by
    rcases List.mem_cons.mp h with rfl | h
    · rfl
    · rw [List.eq_of_mem_replicate h]
      rfl
  gap_blank c h := by
    rw [List.mem_singleton.mp h]
    rfl

@[simp] theorem compact_line (depth : Nat) : compact.line depth = [] := rfl

@[simp] theorem compact_gap : compact.gap = [] := rfl

@[simp] theorem pretty_line (depth : Nat) : pretty.line depth = newLine depth := rfl

@[simp] theorem pretty_gap : pretty.gap = [' '] := rfl

end Layout

variable (l : Layout)

/-! ### The text of a value -/

mutual

/-- The text of a value at a depth. -/
def laid (depth : Nat) : Json → List Char
  | .null => chars .null
  | .bool b => chars (.bool b)
  | .num n => chars (.num n)
  | .str s => chars (.str s)
  | .arr [] => ['[', ']']
  | .arr (v :: rest) => '[' :: l.line (depth + 1) ++ laid (depth + 1) v ++ laidItems depth rest
  | .obj [] => ['{', '}']
  | .obj ((k, v) :: rest) =>
    '{' :: l.line (depth + 1) ++ quote k ++ ':' :: l.gap ++ laid (depth + 1) v ++
      laidFields depth rest

/-- The text of the items behind the first, with the closing bracket. -/
def laidItems (depth : Nat) : List Json → List Char
  | [] => l.line depth ++ [']']
  | v :: rest => ',' :: l.line (depth + 1) ++ laid (depth + 1) v ++ laidItems depth rest

/-- The text of the fields behind the first, with the closing bracket. -/
def laidFields (depth : Nat) : List (String × Json) → List Char
  | [] => l.line depth ++ ['}']
  | (k, v) :: rest =>
    ',' :: l.line (depth + 1) ++ quote k ++ ':' :: l.gap ++ laid (depth + 1) v ++
      laidFields depth rest

end

/-- The text of an item, with the blanks before it. -/
def itemText (depth : Nat) (v : Json) : List Char := l.line (depth + 1) ++ laid l (depth + 1) v

/-- The text of a field, with the blanks before it. -/
def fieldText (depth : Nat) (f : String × Json) : List Char :=
  l.line (depth + 1) ++ (quote f.1 ++ ':' :: (l.gap ++ laid l (depth + 1) f.2))

theorem laidItems_eq (depth : Nat) (items : List Json) :
    laidItems l depth items =
      items.flatMap (fun v => ',' :: itemText l depth v) ++ (l.line depth ++ [']']) := by
  induction items with
  | nil => rw [laidItems, List.flatMap_nil, List.nil_append]
  | cons v rest ih =>
    rw [laidItems, ih, List.flatMap_cons, itemText]
    simp only [List.append_assoc, List.cons_append]

theorem laidFields_eq (depth : Nat) (fields : List (String × Json)) :
    laidFields l depth fields =
      fields.flatMap (fun f => ',' :: fieldText l depth f) ++ (l.line depth ++ ['}']) := by
  induction fields with
  | nil => rw [laidFields, List.flatMap_nil, List.nil_append]
  | cons f rest ih =>
    rw [laidFields, ih, List.flatMap_cons, fieldText]
    simp only [List.append_assoc, List.cons_append]

theorem laid_arr_cons (depth : Nat) (v : Json) (rest : List Json) :
    laid l depth (.arr (v :: rest)) = '[' :: (itemText l depth v ++ (rest.flatMap
      (fun v => ',' :: itemText l depth v) ++ (l.line depth ++ [']']))) := by
  rw [laid, laidItems_eq, itemText]
  simp only [List.append_assoc, List.cons_append]

theorem laid_obj_cons (depth : Nat) (f : String × Json) (rest : List (String × Json)) :
    laid l depth (.obj (f :: rest)) = '{' :: (fieldText l depth f ++ (rest.flatMap
      (fun f => ',' :: fieldText l depth f) ++ (l.line depth ++ ['}']))) := by
  rw [laid, laidFields_eq, fieldText]
  simp only [List.append_assoc, List.cons_append]

/-! ### The two forms -/

mutual

/-- The compact form is laid without blanks. -/
theorem chars_eq_laid (depth : Nat) : ∀ v : Json, v.chars = laid .compact depth v
  | .null => rfl
  | .bool _ => rfl
  | .num _ => rfl
  | .str _ => rfl
  | .arr [] => rfl
  | .arr (v :: rest) => by
    rw [chars, laid, chars_eq_laid (depth + 1) v, itemChars_eq_laid depth rest]
    rfl
  | .obj [] => rfl
  | .obj ((k, v) :: rest) => by
    rw [chars, laid, chars_eq_laid (depth + 1) v, fieldChars_eq_laid depth rest]
    simp only [Layout.compact_line, Layout.compact_gap, List.append_assoc, List.cons_append,
      List.nil_append]

theorem itemChars_eq_laid (depth : Nat) : ∀ items : List Json,
    itemChars items = laidItems .compact depth items
  | [] => rfl
  | v :: rest => by
    rw [itemChars, laidItems, chars_eq_laid (depth + 1) v, itemChars_eq_laid depth rest]
    rfl

theorem fieldChars_eq_laid (depth : Nat) : ∀ fields : List (String × Json),
    fieldChars fields = laidFields .compact depth fields
  | [] => rfl
  | (k, v) :: rest => by
    rw [fieldChars, laidFields, chars_eq_laid (depth + 1) v, fieldChars_eq_laid depth rest]
    simp only [Layout.compact_line, Layout.compact_gap, List.append_assoc, List.cons_append,
      List.nil_append]

end

mutual

/-- The pretty form is laid on lines. -/
theorem prettyChars_eq_laid (depth : Nat) : ∀ v : Json, v.prettyChars depth = laid .pretty depth v
  | .null => rfl
  | .bool _ => rfl
  | .num _ => rfl
  | .str _ => rfl
  | .arr [] => rfl
  | .arr (v :: rest) => by
    rw [prettyChars, laid, prettyChars_eq_laid (depth + 1) v, prettyItems_eq_laid depth rest]
    rfl
  | .obj [] => rfl
  | .obj ((k, v) :: rest) => by
    rw [prettyChars, laid, prettyChars_eq_laid (depth + 1) v, prettyFields_eq_laid depth rest]
    simp only [Layout.pretty_line, Layout.pretty_gap, List.append_assoc, List.cons_append,
      List.nil_append]

theorem prettyItems_eq_laid (depth : Nat) : ∀ items : List Json,
    prettyItems depth items = laidItems .pretty depth items
  | [] => rfl
  | v :: rest => by
    rw [prettyItems, laidItems, prettyChars_eq_laid (depth + 1) v, prettyItems_eq_laid depth rest]
    rfl

theorem prettyFields_eq_laid (depth : Nat) : ∀ fields : List (String × Json),
    prettyFields depth fields = laidFields .pretty depth fields
  | [] => rfl
  | (k, v) :: rest => by
    rw [prettyFields, laidFields, prettyChars_eq_laid (depth + 1) v, prettyFields_eq_laid depth rest]
    simp only [Layout.pretty_line, Layout.pretty_gap, List.append_assoc, List.cons_append,
      List.nil_append]

end

end IndexGateway.Json

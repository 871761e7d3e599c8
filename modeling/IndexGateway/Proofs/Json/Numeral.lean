import IndexGateway.Number.Literal
import IndexGateway.Proofs.Text.Reader
import Mathlib.Data.List.Basic
import Mathlib.Data.Nat.Digits.Defs

/-!
# Numbers in JSON texts

A number has no mark at its end: it ends where a character follows that no number
holds. `Stops` says so of what follows. The text of every number, floating-point
numbers included, consists of such characters only, and a whole number is read back
as it was.
-/

namespace IndexGateway.Number

open Text

/-- Whether the text of a number may hold a character. -/
def isNumeric (c : Char) : Bool := c.isDigit || c ∈ ['-', '+', '.', 'e', 'E']

/-- No number goes on in a text. -/
def Stops (text : List Char) : Prop := ∀ c, text.head? = some c → isNumeric c = false

theorem stops_nil : Stops [] := fun _ h => nomatch h

theorem stops_cons {c : Char} (h : isNumeric c = false) (text : List Char) : Stops (c :: text) := by
  rintro d hd
  rw [← Option.some.inj hd]
  exact h

theorem isNumeric_of_isDigit {c : Char} (h : c.isDigit) : isNumeric c := by
  simp [isNumeric, h]

/-! ### Texts of numbers -/

theorem isDigit_of_mem_ofNat {n : Nat} {c : Char} (h : c ∈ Numeral.ofNat n) : c.isDigit :=
  Nat.isDigit_of_mem_toDigits (by decide) (by decide) h

theorem isNumeric_of_mem_ofNat {n : Nat} {c : Char} (h : c ∈ Numeral.ofNat n) : isNumeric c :=
  isNumeric_of_isDigit (isDigit_of_mem_ofNat h)

theorem ofNat_ne_nil (n : Nat) : Numeral.ofNat n ≠ [] := Nat.toDigits_ne_nil

/-- Whether the text of a number may begin with a character. -/
def isLeading (c : Char) : Bool := c.isDigit || c = '-'

/-- A text that may be that of a number. -/
structure IsNumeral (text : List Char) : Prop where
  /-- It begins like one. -/
  leads : ∃ c rest, text = c :: rest ∧ isLeading c
  /-- It holds nothing that no number holds. -/
  all : ∀ c ∈ text, isNumeric c

/-- A text of numeric characters that begins with a digit. -/
theorem IsNumeral.of_digit {c : Char} {rest : List Char} (hc : c.isDigit)
    (hrest : ∀ d ∈ rest, isNumeric d) : IsNumeral (c :: rest) where
  leads := ⟨c, rest, rfl, by simp [isLeading, hc]⟩
  all := List.forall_mem_cons.mpr ⟨isNumeric_of_isDigit hc, hrest⟩

theorem IsNumeral.neg {text : List Char} (h : IsNumeral text) : IsNumeral ('-' :: text) where
  leads := ⟨'-', text, rfl, rfl⟩
  all := List.forall_mem_cons.mpr ⟨rfl, h.all⟩

theorem IsNumeral.append {text more : List Char} (h : IsNumeral text)
    (hmore : ∀ c ∈ more, isNumeric c) : IsNumeral (text ++ more) where
  leads := by
    obtain ⟨c, rest, rfl, hc⟩ := h.leads
    exact ⟨c, rest ++ more, rfl, hc⟩
  all c hc := (List.mem_append.mp hc).elim (h.all c) (hmore c)

theorem isNumeral_ofNat (n : Nat) : IsNumeral (Numeral.ofNat n) := by
  obtain ⟨c, rest, h⟩ := List.exists_cons_of_ne_nil (ofNat_ne_nil n)
  have hmem : ∀ d ∈ c :: rest, d.isDigit := fun d hd => isDigit_of_mem_ofNat (h ▸ hd)
  rw [h]
  exact .of_digit (hmem c List.mem_cons_self) fun d hd =>
    isNumeric_of_isDigit (hmem d (List.mem_cons_of_mem _ hd))

theorem isNumeral_ofInt (n : Int) : IsNumeral (Numeral.ofInt n) := by
  cases n with
  | ofNat n => exact isNumeral_ofNat n
  | negSucc n => exact (isNumeral_ofNat (n + 1)).neg

theorem isNumeric_pointZero : ∀ d ∈ ['.', '0'], isNumeric d :=
  List.forall_mem_cons.mpr ⟨rfl, List.forall_mem_singleton.mpr rfl⟩

/-- The layout of a decimal is that of a number, in each of its four forms. -/
theorem isNumeral_layout (c : Nat) (k : Int) : IsNumeral (Shortest.layout c k) := by
  have hdigits := isNumeral_ofNat c
  have hzeros : ∀ n, ∀ d ∈ List.replicate n '0', isNumeric d := by
    intro n d hd
    rw [List.eq_of_mem_replicate hd]
    rfl
  unfold Shortest.layout
  dsimp only
  split
  · exact (hdigits.append (hzeros _)).append isNumeric_pointZero
  split
  · next h =>
    -- at least one digit stands before the point
    have hpos : 0 < ((Numeral.ofNat c).length + k).toNat := by omega
    obtain ⟨d, rest, hcons⟩ := List.exists_cons_of_ne_nil (ofNat_ne_nil c)
    have hall : ∀ x ∈ d :: rest, x.isDigit := fun x hx => isDigit_of_mem_ofNat (hcons ▸ hx)
    obtain ⟨n, hn⟩ := Nat.exists_eq_succ_of_ne_zero (Nat.pos_iff_ne_zero.mp hpos)
    rw [hn, hcons, Nat.succ_eq_add_one, List.take_succ_cons, List.cons_append]
    refine .of_digit (hall d List.mem_cons_self) fun x hx => ?_
    rcases List.mem_append.mp hx with hx | hx
    · exact isNumeric_of_isDigit (hall x (List.mem_cons_of_mem _ (List.mem_of_mem_take hx)))
    · rcases List.mem_cons.mp hx with rfl | hx
      · rfl
      · exact isNumeric_of_isDigit (hall x (List.mem_of_mem_drop hx))
  split
  · refine .of_digit rfl fun x hx => ?_
    rcases List.mem_append.mp hx with hx | hx
    · rcases List.mem_cons.mp hx with rfl | hx
      · rfl
      · exact hzeros _ x hx
    · exact hdigits.all x hx
  · have hexp : ∀ sign n, isNumeric sign → ∀ d ∈ 'e' :: sign :: Numeral.ofNat n, isNumeric d := by
      intro sign n hsign d hd
      rcases List.mem_cons.mp hd with rfl | hd
      · rfl
      rcases List.mem_cons.mp hd with rfl | hd
      · exact hsign
      · exact isNumeric_of_mem_ofNat hd
    refine IsNumeral.append ?_ (hexp _ _ (by split <;> rfl))
    split
    · next d h => exact h ▸ hdigits
    · next d more _ h =>
      have hall : ∀ x ∈ d :: more, x.isDigit := fun x hx => isDigit_of_mem_ofNat (h ▸ hx)
      refine .of_digit (hall d List.mem_cons_self) fun x hx => ?_
      rcases List.mem_cons.mp hx with rfl | hx
      · rfl
      · exact isNumeric_of_isDigit (hall x (List.mem_cons_of_mem _ hx))
    · next h => exact absurd h (ofNat_ne_nil c)

/-- The text of every number is a numeral. -/
theorem isNumeral_text (n : Number) : IsNumeral n.text := by
  cases n with
  | int n => exact isNumeral_ofInt n.val
  | float x =>
    have hmagnitude : IsNumeral (if x.isZero then ['0', '.', '0']
        else Shortest.layout (Shortest.decimal x).1 (Shortest.decimal x).2) := by
      split
      · exact .of_digit rfl isNumeric_pointZero
      · exact isNumeral_layout _ _
    show IsNumeral x.text
    unfold Binary64.text
    by_cases hneg : x.isNegative
    · simp only [hneg, if_true]
      exact hmagnitude.neg
    · simp only [hneg]
      exact hmagnitude

/-- The layout of a decimal holds a point or an exponent. -/
theorem exists_mem_layout (c : Nat) (k : Int) : ∃ d ∈ Shortest.layout c k, isLeading d = false := by
  unfold Shortest.layout
  dsimp only
  split
  · exact ⟨'.', by simp, rfl⟩
  split
  · exact ⟨'.', by simp, rfl⟩
  split
  · exact ⟨'.', by simp, rfl⟩
  · exact ⟨'e', by simp, rfl⟩

theorem exists_mem_text_float (x : Binary64) :
    ∃ d ∈ Number.text (.float x), isLeading d = false := by
  have hmagnitude : ∃ d ∈ (if x.isZero then ['0', '.', '0']
      else Shortest.layout (Shortest.decimal x).1 (Shortest.decimal x).2), isLeading d = false := by
    split
    · exact ⟨'.', by simp, rfl⟩
    · exact exists_mem_layout _ _
  show ∃ d ∈ x.text, isLeading d = false
  unfold Binary64.text
  by_cases hneg : x.isNegative
  · obtain ⟨d, hmem, hd⟩ := hmagnitude
    simp only [hneg, if_true]
    exact ⟨d, List.mem_cons_of_mem _ hmem, hd⟩
  · simp only [hneg]
    exact hmagnitude

theorem isLeading_of_mem_ofInt {n : Int} {c : Char} (h : c ∈ Numeral.ofInt n) : isLeading c := by
  have hdigit : ∀ m, c ∈ Numeral.ofNat m → isLeading c := fun m hc => by
    simp [isLeading, isDigit_of_mem_ofNat hc]
  cases n with
  | ofNat n => exact hdigit n h
  | negSucc n =>
    rcases List.mem_cons.mp h with rfl | h
    · rfl
    · exact hdigit (n + 1) h

theorem notMem_ofNat {n : Nat} {c : Char} (hc : c.isDigit = false) : c ∉ Numeral.ofNat n :=
  fun h => Reader.ne_of_class (isDigit_of_mem_ofNat h) hc rfl

theorem ofNat_ne_cons {n : Nat} {c : Char} (hc : c.isDigit = false) (rest : List Char) :
    Numeral.ofNat n ≠ c :: rest :=
  fun h => notMem_ofNat hc (h ▸ List.mem_cons_self)

theorem notMem_ofInt {n : Int} {c : Char} (hc : isLeading c = false) : c ∉ Numeral.ofInt n :=
  fun h => Reader.ne_of_class (isLeading_of_mem_ofInt h) hc rfl

theorem ofInt_ne_cons {n : Int} {c : Char} (hc : isLeading c = false) (rest : List Char) :
    Numeral.ofInt n ≠ c :: rest :=
  fun h => notMem_ofInt hc (h ▸ List.mem_cons_self)

/-- No floating-point number has the text of a whole number. -/
theorem text_float_ne_text_int (x : Binary64) (n : Integer) :
    Number.text (.float x) ≠ Number.text (.int n) := by
  intro h
  obtain ⟨d, hmem, hd⟩ := exists_mem_text_float x
  rw [h] at hmem
  exact Bool.false_ne_true (hd.symm.trans (isLeading_of_mem_ofInt hmem))

/-- Numbers end where no numeric character follows, so what is behind one is known. -/
theorem text_append_inj {n m : Number} {rest rest' : List Char} (hrest : Stops rest)
    (hrest' : Stops rest') (h : n.text ++ rest = m.text ++ rest') : n.text = m.text ∧ rest = rest' := by
  obtain ⟨htake, hdrop⟩ := Reader.takeWhile_append_of_stop (isNumeral_text n).all hrest
  obtain ⟨htake', hdrop'⟩ := Reader.takeWhile_append_of_stop (isNumeral_text m).all hrest'
  rw [h] at htake hdrop
  exact ⟨htake.symm.trans htake', hdrop.symm.trans hdrop'⟩

/-! ### Whole numbers -/

theorem value_ofNat (n : Nat) : Numeral.value (Numeral.ofNat n) = n :=
  Nat.ofDigitChars_ten_toDigits

theorem digitChar_ne_zero : ∀ n < 10, 0 < n → Nat.digitChar n ≠ '0' := by
  decide

/-- The digits of a positive number do not begin with a zero. -/
theorem head?_ofNat_ne_zero {n : Nat} (h : 0 < n) : (Numeral.ofNat n).head? ≠ some '0' := by
  unfold Numeral.ofNat
  induction n using Nat.strongRecOn with
  | ind n ih =>
    by_cases hlt : n < 10
    · rw [Nat.toDigits_of_lt_base hlt]
      exact fun hzero => digitChar_ne_zero n hlt h (Option.some.inj hzero)
    · rw [Nat.toDigits_of_base_le (by decide) (by omega), List.head?_append]
      have := ih (n / 10) (by omega) (by omega)
      cases hhead : (Nat.toDigits 10 (n / 10)).head? with
      | none => exact absurd (List.head?_eq_none_iff.mp hhead) Nat.toDigits_ne_nil
      | some c => simpa [hhead] using this

theorem ofNat_zero : Numeral.ofNat 0 = ['0'] := Nat.toDigits_zero 10

/-- What follows a number is neither a point nor an exponent. -/
theorem Stops.readFraction {rest : List Char} (h : Stops rest) :
    Literal.readFraction rest = some ([], rest) := by
  unfold Literal.readFraction
  split
  · next rest => exact absurd (h '.' rfl) (by decide)
  · rfl

theorem Stops.readExponent {rest : List Char} (h : Stops rest) :
    Literal.readExponent rest = some (none, rest) := by
  unfold Literal.readExponent
  split
  · next c rest =>
    rw [if_neg]
    rintro (rfl | rfl)
    · exact absurd (h 'e' rfl) (by decide)
    · exact absurd (h 'E' rfl) (by decide)
  · rfl

/-- The digits of a number are read up to what follows. -/
theorem readWhole_ofNat (n : Nat) {rest : List Char} (h : Stops rest) :
    Literal.readWhole (Numeral.ofNat n ++ rest) = some (Numeral.ofNat n, rest) := by
  have hstop : ∀ c, rest.head? = some c → c.isDigit = false := by
    intro c hc
    have := h c hc
    simp only [isNumeric, Bool.or_eq_false_iff] at this
    exact this.1
  obtain ⟨htake, hdrop⟩ := Reader.takeWhile_append_of_stop
    (p := Char.isDigit) (fun c hc => isDigit_of_mem_ofNat (n := n) hc) hstop
  unfold Literal.readWhole
  rw [htake, hdrop]
  split
  · next hnil => exact absurd hnil (ofNat_ne_nil n)
  · next d more hzero =>
    rcases Nat.eq_zero_or_pos n with rfl | hpos
    · rw [ofNat_zero] at hzero
      simp at hzero
    · exact absurd (by rw [hzero]; rfl) (head?_ofNat_ne_zero hpos)
  · rfl

theorem ofInt_of_nonneg {n : Int} (h : 0 ≤ n) : Numeral.ofInt n = Numeral.ofNat n.toNat := by
  cases n with
  | ofNat n => rfl
  | negSucc n => exact absurd h (by omega)

theorem ofInt_of_neg {n : Int} (h : n < 0) :
    Numeral.ofInt n = '-' :: Numeral.ofNat ((-n).toNat - 1 + 1) := by
  cases n with
  | ofNat n => exact absurd h (Int.not_lt.mpr (Int.natCast_nonneg n))
  | negSucc n => rfl

theorem ofInt?_val (n : Integer) : Integer.ofInt? n.val = some n := dif_pos ⟨n.lower, n.upper⟩

/-- A number without a sign is read as a literal without one. -/
theorem read_ofNat (n : Nat) {rest : List Char} (h : Stops rest) :
    Literal.read (Numeral.ofNat n ++ rest) = some (⟨false, Numeral.ofNat n, [], none⟩, rest) := by
  have hread := readWhole_ofNat n h
  obtain ⟨c, digits, hcons⟩ := List.exists_cons_of_ne_nil (ofNat_ne_nil n)
  have hc : c ≠ '-' := by
    rintro rfl
    exact absurd (isDigit_of_mem_ofNat (n := n) (hcons ▸ List.mem_cons_self)) (by decide)
  rw [hcons, List.cons_append] at hread ⊢
  unfold Literal.read
  simp [hc, hread, h.readFraction, h.readExponent]

theorem read_neg_ofNat (n : Nat) {rest : List Char} (h : Stops rest) :
    Literal.read ('-' :: Numeral.ofNat n ++ rest) =
      some (⟨true, Numeral.ofNat n, [], none⟩, rest) := by
  unfold Literal.read
  simp [readWhole_ofNat n h, h.readFraction, h.readExponent]

/-- A literal without fraction and exponent is whole if its value is. -/
theorem number?_of_whole? {l : Literal} {n : Integer} (hfraction : l.fraction = [])
    (hexponent : l.exponent = none) (h : l.whole? = some n) : l.number? = some (.int n) := by
  unfold Literal.number?
  rw [hfraction, hexponent, h]

theorem whole?_nonneg {n : Integer} (h : ¬ n.val < 0) :
    Literal.whole? ⟨false, Numeral.ofNat n.val.toNat, [], none⟩ = some n := by
  have hval : ((n.val.toNat : Nat) : Int) = n.val := by omega
  unfold Literal.whole?
  simp only [value_ofNat]
  rw [if_neg Bool.false_ne_true, hval]
  exact ofInt?_val n

theorem whole?_neg {n : Integer} (h : n.val < 0) :
    Literal.whole? ⟨true, Numeral.ofNat ((-n.val).toNat - 1 + 1), [], none⟩ = some n := by
  have hval : -(((-n.val).toNat - 1 + 1 : Nat) : Int) = n.val := by omega
  unfold Literal.whole?
  simp only [value_ofNat, if_true]
  rw [if_neg (Nat.succ_ne_zero _), hval]
  exact ofInt?_val n

/-- **A whole number reads back**, wherever numbers end behind it. -/
theorem read_ofInt (n : Integer) {rest : List Char} (h : Stops rest) :
    ∃ l, Literal.read (Numeral.ofInt n.val ++ rest) = some (l, rest) ∧ l.number? = some (.int n) := by
  by_cases hneg : n.val < 0
  · rw [ofInt_of_neg hneg]
    exact ⟨_, read_neg_ofNat _ h, number?_of_whole? rfl rfl (whole?_neg hneg)⟩
  · rw [ofInt_of_nonneg (Int.not_lt.mp hneg)]
    exact ⟨_, read_ofNat _ h, number?_of_whole? rfl rfl (whole?_nonneg hneg)⟩

end IndexGateway.Number

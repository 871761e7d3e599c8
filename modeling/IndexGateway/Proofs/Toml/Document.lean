import IndexGateway.Proofs.Text.Reader
import IndexGateway.Proofs.Toml.Quoted
import IndexGateway.Proofs.Toml.Scalar
import IndexGateway.Toml.Document

/-!
# Written documents read back

A document that is written section by section is read back as a table of tables, one for
each section, in the order in which they were written; provided that the names of the
sections, and the keys within each of them, can be written without quotes and are distinct.

Reading has two parts, and so has the proof: the text falls apart into the sections that
were written (`many_readSection`), and their assignments build the tables
(`addSections_eq`).
-/

namespace IndexGateway.Toml

open Text Number

/-- A key that is written without quotes. -/
structure IsBare (key : String) : Prop where
  /-- There is something to write. -/
  ne_nil : key.toList ≠ []
  /-- Nothing in it needs quotes. -/
  all : ∀ c ∈ key.toList, isKeyChar c

instance (key : String) : Decidable (IsBare key) :=
  decidable_of_iff (key.toList ≠ [] ∧ key.toList.all isKeyChar = true)
    ⟨fun h => ⟨h.1, List.all_eq_true.mp h.2⟩, fun h => ⟨h.1, List.all_eq_true.mpr h.2⟩⟩

/-- Distinct keys that are written without quotes. -/
structure HasBareKeys {α : Type} (entries : List (String × α)) : Prop where
  /-- The keys are distinct. -/
  nodup : (entries.map Prod.fst).Nodup
  /-- They are written without quotes. -/
  bare : ∀ e ∈ entries, IsBare e.1

/-- The node that a value is read as. -/
def Leaf.node : Leaf → Toml
  | .text s => .text s
  | .int n => .int n
  | .bool b => .bool b

/-- The assignment of a line. -/
def assignmentOf (line : String × Leaf) : Assignment := ⟨⟨[], line.1⟩, line.2.node⟩

/-- A section as it is read. -/
def sectionOf (s : String × List (String × Leaf)) : Section :=
  ⟨⟨false, ⟨[], s.1⟩⟩, s.2.map assignmentOf⟩

/-- The content of a section. -/
def contentOf (lines : List (String × Leaf)) : Entries := lines.map fun line => (line.1, line.2.node)

/-- The tables of a document. -/
def tablesOf (sections : List (String × List (String × Leaf))) : Entries :=
  sections.map fun s => (s.1, .table .header (contentOf s.2))

/-! ### Blanks -/

theorem skipSpaces_cons {c : Char} (h : isSpace c = false) (rest : List Char) :
    skipSpaces (c :: rest) = c :: rest := by
  simp [skipSpaces, h]

theorem skipSpaces_space (rest : List Char) : skipSpaces (' ' :: rest) = skipSpaces rest := rfl

theorem isSpace_of_isKeyChar {c : Char} (h : isKeyChar c = true) : isSpace c = false := by
  have hspace : c ≠ ' ' := Reader.ne_of_class h rfl
  have htab : c ≠ '\t' := Reader.ne_of_class h rfl
  simp [isSpace, hspace, htab]

/-- Filler is passed over up to the front of a line. -/
theorem skipFiller_cons {c : Char} (hspace : isSpace c = false) (hline : c ≠ '\n')
    (hreturn : c ≠ '\r') (hcomment : c ≠ '#') (rest : List Char) :
    skipFiller (c :: rest) = c :: rest := by
  simp [skipFiller, skipFillerFrom, hspace, hline, hreturn, hcomment]

theorem skipFiller_bracket (rest : List Char) : skipFiller ('[' :: rest) = '[' :: rest :=
  skipFiller_cons rfl (by decide) (by decide) (by decide) rest

theorem skipFiller_line (rest : List Char) : skipFiller ('\n' :: rest) = skipFiller rest := by
  simp [skipFiller, skipFillerFrom]

theorem readLineEnd_line (rest : List Char) : readLineEnd ('\n' :: rest) = some ((), rest) := by
  simp [readLineEnd, skipSpaces_cons, isSpace, skipComment, behindLineEnd?]

/-! ### Keys -/

theorem readKey_bare {key : String} (h : IsBare key) {rest : List Char}
    (hrest : ∀ c, rest.head? = some c → isKeyChar c = false) :
    readKey (key.toList ++ rest) = some (key, skipSpaces rest) := by
  have hrun := Reader.run1_append h.ne_nil h.all hrest
  obtain ⟨c, cs, hcons⟩ := List.exists_cons_of_ne_nil h.ne_nil
  have hc : isKeyChar c = true := h.all c (hcons ▸ List.mem_cons_self)
  have hbasic : c ≠ '"' := Reader.ne_of_class hc rfl
  have hliteral : c ≠ '\'' := Reader.ne_of_class hc rfl
  have hspaces : skipSpaces (key.toList ++ rest) = key.toList ++ rest := by
    rw [hcons, List.cons_append, skipSpaces_cons (isSpace_of_isKeyChar hc)]
  unfold readKey
  rw [hspaces]
  split
  · next heq =>
    rw [hcons] at heq
    exact absurd (List.cons.inj heq).1 hbasic
  · next heq =>
    rw [hcons] at heq
    exact absurd (List.cons.inj heq).1 hliteral
  · simp [hrun]

/-- A key without a dot behind it is a path of its own. -/
theorem readPath_bare {key : String} (h : IsBare key) {rest : List Char}
    (hrest : ∀ c, rest.head? = some c → isKeyChar c = false)
    (hdot : (skipSpaces rest).head? ≠ some '.') :
    readPath (key.toList ++ rest) = some (⟨[], key⟩, skipSpaces rest) := by
  have hdotted : readDotted (skipSpaces rest) = none := by
    unfold readDotted
    split
    · next heq => exact absurd (by simp [heq]) hdot
    · rfl
  simp [readPath, readKey_bare h hrest, Reader.many_of_none hdotted, depthLimit, Path.ofKeys]

/-! ### Values -/

theorem exists_cons_quote (text : List Char) :
    ∃ c cs, quote text = c :: cs ∧ (c = '"' ∨ c = '\'') := by
  unfold quote
  cases Style.ofText text with
  | basic => exact ⟨_, _, rfl, .inl rfl⟩
  | literal => exact ⟨_, _, rfl, .inr rfl⟩
  | longBasic => exact ⟨_, _, rfl, .inl rfl⟩
  | longLiteral => exact ⟨_, _, rfl, .inr rfl⟩

theorem isWordChar_of_mem_ofInt {n : Int} {c : Char} (h : c ∈ Numeral.ofInt n) :
    isWordChar c := by
  have hlead := isLeading_of_mem_ofInt h
  simp only [isLeading, Bool.or_eq_true, decide_eq_true_eq] at hlead
  rcases hlead with hdigit | rfl
  · exact isWordChar_of_isDigit hdigit
  · rfl

/-- A value that is not a text is a word. -/
theorem isWordChar_of_mem_chars {leaf : Leaf} (h : ∀ s, leaf ≠ .text s) {c : Char}
    (hc : c ∈ leaf.chars) : isWordChar c := by
  cases leaf with
  | text s => exact absurd rfl (h s)
  | int n => exact isWordChar_of_mem_ofInt hc
  | bool b =>
    have hall : (Leaf.bool b).chars.all isWordChar = true := by
      cases b <;> rfl
    exact List.all_eq_true.mp hall c hc

theorem ofWord_chars {leaf : Leaf} (h : ∀ s, leaf ≠ .text s) : ofWord leaf.chars = some leaf.node := by
  cases leaf with
  | text s => exact absurd rfl (h s)
  | int n => exact ofWord_ofInt n
  | bool b => cases b <;> rfl

theorem chars_ne_nil (leaf : Leaf) : leaf.chars ≠ [] := by
  cases leaf with
  | text s =>
    obtain ⟨c, cs, hcons, -⟩ := exists_cons_quote s.toList
    simp [Leaf.chars, hcons]
  | int n =>
    obtain ⟨c, cs, hcons, -⟩ := (isNumeral_ofInt n.toInt).leads
    simp [Leaf.chars, hcons]
  | bool b => cases b <;> simp [Leaf.chars]

theorem readValue_word (depth : Nat) {c : Char} (hc : isWordChar c = true) (rest : List Char) :
    readValue depth (c :: rest) = readWord (c :: rest) := by
  have h1 : c ≠ '"' := Reader.ne_of_class hc rfl
  have h2 : c ≠ '\'' := Reader.ne_of_class hc rfl
  have h3 : c ≠ '[' := Reader.ne_of_class hc rfl
  have h4 : c ≠ '\x7b' := Reader.ne_of_class hc rfl
  cases depth <;> simp [readValue, h1, h2, h3, h4]

/-- **A value is read back** up to the end of its line. -/
theorem readValue_chars (depth : Nat) (leaf : Leaf) (rest : List Char) :
    readValue depth (leaf.chars ++ '\n' :: rest) = some (leaf.node, '\n' :: rest) := by
  by_cases htext : ∃ s, leaf = .text s
  · obtain ⟨s, rfl⟩ := htext
    have hread : readQuoted (quote s.toList ++ '\n' :: rest) = some (s.toList, '\n' :: rest) :=
      readQuoted_quote s.toList (by simp) (by simp)
    obtain ⟨c, cs, hcons, hc⟩ := exists_cons_quote s.toList
    rw [hcons, List.cons_append] at hread
    cases depth <;> simp [Leaf.chars, hcons, readValue, hc, hread, Leaf.node]
  · have hword : ∀ s, leaf ≠ .text s := fun s heq => htext ⟨s, heq⟩
    obtain ⟨c, cs, hcons⟩ := List.exists_cons_of_ne_nil (chars_ne_nil leaf)
    have hread := readWord_line (fun c => isWordChar_of_mem_chars hword) rest
    rw [hcons, List.cons_append] at hread ⊢
    rw [readValue_word depth (isWordChar_of_mem_chars hword (hcons ▸ List.mem_cons_self)), hread]
    simp [← hcons, ofWord_chars hword]

/-! ### Lines -/

/-- A value begins with something else than a blank. -/
theorem skipSpaces_chars (leaf : Leaf) (rest : List Char) :
    skipSpaces (leaf.chars ++ rest) = leaf.chars ++ rest := by
  obtain ⟨c, cs, hcons⟩ := List.exists_cons_of_ne_nil (chars_ne_nil leaf)
  have hspace : isSpace c = false := by
    by_cases htext : ∃ s, leaf = .text s
    · obtain ⟨s, rfl⟩ := htext
      obtain ⟨d, ds, hquote, hd⟩ := exists_cons_quote s.toList
      obtain ⟨rfl, -⟩ := List.cons.inj (hcons.symm.trans hquote)
      rcases hd with rfl | rfl <;> rfl
    · have hc : isWordChar c :=
        isWordChar_of_mem_chars (fun s heq => htext ⟨s, heq⟩) (hcons ▸ List.mem_cons_self)
      have hblank : c ≠ ' ' := Reader.ne_of_class hc rfl
      have htab : c ≠ '\t' := Reader.ne_of_class hc rfl
      simp [isSpace, hblank, htab]
  rw [hcons, List.cons_append, skipSpaces_cons hspace]

theorem readAssignment_lineChars {key : String} (h : IsBare key) (leaf : Leaf) (depth : Nat)
    (rest : List Char) :
    readAssignment (readValue depth) (key.toList ++ ' ' :: '=' :: ' ' :: (leaf.chars ++ '\n' :: rest)) =
      some (assignmentOf (key, leaf), '\n' :: rest) := by
  have hequals : skipSpaces (' ' :: '=' :: ' ' :: (leaf.chars ++ '\n' :: rest)) =
      '=' :: ' ' :: (leaf.chars ++ '\n' :: rest) := rfl
  have hpath : readPath (key.toList ++ ' ' :: '=' :: ' ' :: (leaf.chars ++ '\n' :: rest)) =
      some (⟨[], key⟩, '=' :: ' ' :: (leaf.chars ++ '\n' :: rest)) :=
    readPath_bare h (by simp [isKeyChar]) (by simp [hequals])
  have hvalue : skipSpaces (' ' :: (leaf.chars ++ '\n' :: rest)) = leaf.chars ++ '\n' :: rest := by
    rw [skipSpaces_space, skipSpaces_chars]
  have hline : skipSpaces ('\n' :: rest) = '\n' :: rest := rfl
  simp [readAssignment, hpath, Reader.exactly, hvalue, readValue_chars, hline, assignmentOf]

theorem skipFiller_bare {key : String} (h : IsBare key) (rest : List Char) :
    skipFiller (key.toList ++ rest) = key.toList ++ rest := by
  obtain ⟨c, cs, hcons⟩ := List.exists_cons_of_ne_nil h.ne_nil
  have hc : isKeyChar c = true := h.all c (hcons ▸ List.mem_cons_self)
  rw [hcons, List.cons_append]
  exact skipFiller_cons (isSpace_of_isKeyChar hc) (Reader.ne_of_class hc rfl) (Reader.ne_of_class hc rfl)
    (Reader.ne_of_class hc rfl) _

/-- **A line is read back.** -/
theorem readLine_lineChars {line : String × Leaf} (h : IsBare line.1) (rest : List Char) :
    readLine (lineChars line ++ rest) = some (assignmentOf line, rest) := by
  obtain ⟨key, leaf⟩ := line
  have hchars : lineChars (key, leaf) ++ rest =
      key.toList ++ ' ' :: '=' :: ' ' :: (leaf.chars ++ '\n' :: rest) := by
    simp [lineChars]
  rw [hchars]
  simp [readLine, skipFiller_bare h, readAssignment_lineChars h, readLineEnd_line]

/-- No line is where the document ends. -/
theorem readLine_nil : readLine [] = none := rfl

/-- A header is no line. -/
theorem readLine_bracket (rest : List Char) : readLine ('[' :: rest) = none := by
  have hkey : readKey ('[' :: rest) = none := by
    simp [readKey, skipSpaces_cons, isSpace, Reader.run1, isKeyChar]
  simp [readLine, skipFiller_bracket, readAssignment, readPath, hkey]

/-- An empty line does not count. -/
theorem readLine_line (rest : List Char) : readLine ('\n' :: rest) = readLine rest := by
  simp [readLine, skipFiller_line]

/-! ### Sections -/

theorem readHeader_bare {name : String} (h : IsBare name) (rest : List Char) :
    readHeader ('[' :: (name.toList ++ ']' :: '\n' :: rest)) = some (⟨false, ⟨[], name⟩⟩, rest) := by
  have hspaces : skipSpaces (']' :: '\n' :: rest) = ']' :: '\n' :: rest := rfl
  have hpath : readPath (name.toList ++ ']' :: '\n' :: rest) =
      some (⟨[], name⟩, ']' :: '\n' :: rest) :=
    readPath_bare h (by simp [isKeyChar]) (by simp [hspaces])
  have hdoubled : ∀ more, name.toList ++ ']' :: '\n' :: rest ≠ '[' :: more := by
    intro more heq
    obtain ⟨c, cs, hcons⟩ := List.exists_cons_of_ne_nil h.ne_nil
    rw [hcons] at heq
    exact Reader.ne_of_class (h.all c (hcons ▸ List.mem_cons_self)) rfl (List.cons.inj heq).1
  simp [readHeader, hpath, Reader.exactly, readLineEnd_line]

/-- **A section is read back**, if no line follows. -/
theorem readSection_sectionChars {s : String × List (String × Leaf)} (hname : IsBare s.1)
    (hlines : ∀ line ∈ s.2, IsBare line.1) {rest : List Char} (hrest : readLine rest = none) :
    readSection (sectionChars s ++ rest) = some (sectionOf s, rest) := by
  obtain ⟨name, lines⟩ := s
  have hchars : sectionChars (name, lines) ++ rest =
      '[' :: (name.toList ++ ']' :: '\n' :: (lines.flatMap lineChars ++ rest)) := by
    simp [sectionChars]
  have hmany : Reader.many readLine (lines.flatMap lineChars ++ rest) =
      some (lines.map assignmentOf, rest) := by
    refine Reader.many_flatMap
      (fun line hline rest (_ : True) => readLine_lineChars (hlines line hline) rest)
      (fun _ _ _ => trivial) trivial hrest fun line _ => ?_
    simp [lineChars]
  rw [hchars]
  simp [readSection, skipFiller_bracket, readHeader_bare hname, hmany, sectionOf]

theorem readSection_line (rest : List Char) : readSection ('\n' :: rest) = readSection rest := by
  simp [readSection, skipFiller_line]

/-- Every section but the first stands behind an empty line. -/
theorem sectionsChars_cons (s : String × List (String × Leaf))
    (sections : List (String × List (String × Leaf))) :
    sectionsChars (s :: sections) =
      sectionChars s ++ sections.flatMap fun s => '\n' :: sectionChars s := by
  induction sections generalizing s with
  | nil => simp [sectionsChars]
  | cons t sections ih => simpa [sectionsChars, List.intercalate, List.intersperse] using ih t

theorem readLine_sectionChars (s : String × List (String × Leaf)) (rest : List Char) :
    readLine (sectionChars s ++ rest) = none := by
  simpa [sectionChars] using readLine_bracket _

/-- The text of a document falls apart into its sections. -/
theorem many_readSection {sections : List (String × List (String × Leaf))}
    (hnames : ∀ s ∈ sections, IsBare s.1) (hkeys : ∀ s ∈ sections, ∀ line ∈ s.2, IsBare line.1) :
    Reader.many readSection (sectionsChars sections) = some (sections.map sectionOf, []) := by
  cases sections with
  | nil => rfl
  | cons s sections =>
    -- each section with the text that it has in the document
    let items : List (List Char × Section) :=
      (sectionChars s, sectionOf s) :: sections.map fun s => ('\n' :: sectionChars s, sectionOf s)
    have hitems : ∀ b ∈ items, ∃ t ∈ s :: sections, b.2 = sectionOf t ∧
        (b.1 = sectionChars t ∨ b.1 = '\n' :: sectionChars t) := by
      refine List.forall_mem_cons.mpr ⟨⟨s, List.mem_cons_self, rfl, .inl rfl⟩, ?_⟩
      intro b hb
      obtain ⟨t, ht, rfl⟩ := List.mem_map.mp hb
      exact ⟨t, List.mem_cons_of_mem _ ht, rfl, .inr rfl⟩
    have hmany : Reader.many readSection (items.flatMap Prod.fst ++ []) =
        some (items.map Prod.snd, []) := by
      refine Reader.many_flatMap (fun b hb rest (hrest : readLine rest = none) => ?read)
        (fun b hb rest => ?front) readLine_nil rfl (fun b hb => ?ne)
      case read =>
        obtain ⟨t, ht, hvalue, htext | htext⟩ := hitems b hb
        · rw [htext, hvalue, readSection_sectionChars (hnames t ht) (hkeys t ht) hrest]
        · rw [htext, hvalue, List.cons_append, readSection_line,
            readSection_sectionChars (hnames t ht) (hkeys t ht) hrest]
      case front =>
        obtain ⟨t, -, -, htext | htext⟩ := hitems b hb
        · rw [htext, readLine_sectionChars]
        · rw [htext, List.cons_append, readLine_line, readLine_sectionChars]
      case ne =>
        obtain ⟨t, -, -, htext | htext⟩ := hitems b hb <;> simp [htext, sectionChars]
    simpa [items, sectionsChars_cons, List.flatMap_map, Function.comp_def] using hmany

/-! ### The tree -/

theorem find?_eq_none {key : String} {entries : Entries} (h : key ∉ entries.map Prod.fst) :
    entries.find? key = none := by
  induction entries with
  | nil => rfl
  | cons e entries ih =>
    rw [List.map_cons, List.mem_cons, not_or] at h
    rw [Entries.find?, if_neg (Ne.symm h.1), ih h.2]

theorem add_of_notMem {key : String} {entries : Entries} (h : key ∉ entries.map Prod.fst)
    (v : Toml) : entries.add key v = some (entries ++ [(key, v)]) := by
  simp [Entries.add, find?_eq_none h]

theorem notMem_of_nodup {keys more : List String} {key : String} (h : (keys ++ key :: more).Nodup) :
    key ∉ keys ∧ ((keys ++ [key]) ++ more).Nodup := by
  refine ⟨fun hmem => ?_, by simpa using h⟩
  exact (List.nodup_append.mp h).2.2 key hmem key List.mem_cons_self rfl

/-- Assignments of distinct keys add an entry each. -/
theorem assignAll_eq (entries : Entries) {lines : List (String × Leaf)}
    (h : (entries.map Prod.fst ++ lines.map Prod.fst).Nodup) :
    assignAll (lines.map assignmentOf) entries = some (entries ++ contentOf lines) := by
  induction lines generalizing entries with
  | nil => simp [assignAll, contentOf]
  | cons line lines ih =>
    obtain ⟨hkey, hmore⟩ := notMem_of_nodup h
    have hassign : assign [] line.1 line.2.node entries = some (entries ++ [(line.1, line.2.node)]) :=
      add_of_notMem hkey _
    have hrest := ih (entries ++ [(line.1, line.2.node)]) (by simpa using hmore)
    simp [assignAll, assignmentOf, hassign, hrest, contentOf]

/-- A section whose table is not there yet adds it. -/
theorem addSection_sectionOf {s : String × List (String × Leaf)} {entries : Entries}
    (h : s.1 ∉ entries.map Prod.fst) (hkeys : (s.2.map Prod.fst).Nodup) :
    addSection (sectionOf s) entries =
      some (entries ++ [(s.1, .table .header (contentOf s.2))]) := by
  have hfill : assignAll (s.2.map assignmentOf) [] = some (contentOf s.2) := by
    simpa using assignAll_eq [] (by simpa using hkeys)
  simp [addSection, sectionOf, within, openTable, find?_eq_none h, hfill]

/-- Sections of distinct names add a table each. -/
theorem addSections_eq (entries : Entries) {sections : List (String × List (String × Leaf))}
    (h : (entries.map Prod.fst ++ sections.map Prod.fst).Nodup)
    (hkeys : ∀ s ∈ sections, (s.2.map Prod.fst).Nodup) :
    addSections (sections.map sectionOf) entries = some (entries ++ tablesOf sections) := by
  induction sections generalizing entries with
  | nil => simp [addSections, tablesOf]
  | cons s sections ih =>
    obtain ⟨hname, hmore⟩ := notMem_of_nodup h
    obtain ⟨hs, hkeys⟩ := List.forall_mem_cons.mp hkeys
    have hrest := ih (entries ++ [(s.1, .table .header (contentOf s.2))])
      (by simpa using hmore) hkeys
    simp [addSections, addSection_sectionOf hname hs, hrest, tablesOf]

/-! ### Documents -/

theorem front_sectionsChars (sections : List (String × List (String × Leaf))) :
    readLine (sectionsChars sections) = none ∧
      skipMark (sectionsChars sections) = sectionsChars sections := by
  cases sections with
  | nil => exact ⟨rfl, rfl⟩
  | cons s sections =>
    rw [sectionsChars_cons]
    exact ⟨readLine_sectionChars s _, rfl⟩

/-- **A document reads back** as the tables that were written. -/
theorem ofChars?_sectionsChars {sections : List (String × List (String × Leaf))}
    (hnames : HasBareKeys sections) (hkeys : ∀ s ∈ sections, HasBareKeys s.2) :
    ofChars? (sectionsChars sections) = some (tablesOf sections) := by
  obtain ⟨hline, hmark⟩ := front_sectionsChars sections
  have hmany := many_readSection hnames.bare fun s hs => (hkeys s hs).bare
  have htree := addSections_eq [] (by simpa using hnames.nodup)
    fun s hs => (hkeys s hs).nodup
  have hend : skipFiller [] = [] := rfl
  simp [ofChars?, hmark, Reader.many_of_none hline, hmany, hend, assignAll, htree]

end IndexGateway.Toml

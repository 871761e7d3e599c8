import IndexGateway.Number.Basic

/-!
# TOML documents

Settings are written in TOML. A document is a tree of tables; its leaves are texts,
numbers, truth values and times. Which key may be set twice, and which table may be
continued later, depends on how a table came about, so a table remembers that.

## The model

Floating-point numbers and times are kept as they are written, since no setting
uses them. Keys are listed in the order in which they appeared first.

A table can be opened by a header, implied by the header of a table inside it, made
by a dotted key, or written in braces. A header may name a table again only if that
table was merely implied so far. A dotted key may add to tables that dotted keys
made, and go through implied ones; a table in braces is complete.
-/

namespace IndexGateway

/-- How a table came about. -/
inductive Toml.Origin where
  /-- By a header of its own. -/
  | header
  /-- By the header of a table inside it. -/
  | implied
  /-- By a dotted key. -/
  | dotted
  /-- In braces. -/
  | braces
  deriving DecidableEq, Repr

/-- A node of a document. -/
inductive Toml where
  /-- A text. -/
  | text (s : String)
  /-- A whole number. -/
  | int (n : Int64)
  /-- A floating-point number, as it is written. -/
  | float (literal : String)
  /-- A truth value. -/
  | bool (b : Bool)
  /-- A date, a time of day or both, as it is written. -/
  | time (literal : String)
  /-- A list in brackets. -/
  | array (items : List Toml)
  /-- A table. -/
  | table (origin : Toml.Origin) (entries : List (String × Toml))
  /-- The tables that doubled headers of one name opened. -/
  | tables (rows : List (List (String × Toml)))
  deriving Inhabited

namespace Toml

/-- The content of a table. -/
abbrev Entries := List (String × Toml)

namespace Entries

/-- The node of a key. -/
def find? (key : String) : Entries → Option Toml
  | [] => none
  | (k, v) :: rest => if k = key then some v else find? key rest

/-- The entries with another node for a key that is there. -/
def replace (key : String) (v : Toml) : Entries → Entries
  | [] => []
  | (k, old) :: rest => if k = key then (k, v) :: rest else (k, old) :: replace key v rest

/-- The entries with one more key. -/
def add (key : String) (v : Toml) (entries : Entries) : Option Entries :=
  match find? key entries with
  | none => some (entries ++ [(key, v)])
  | some _ => none

end Entries

/-- A change of the content of a table, which may be refused. -/
abbrev Change := Entries → Option Entries

/-- Changes the last of several tables. -/
def changeLast (change : Change) : List Entries → Option (List Entries)
  | [] => none
  | [row] => (change row).map ([·])
  | row :: rest => (changeLast change rest).map (row :: ·)

/-- Sets a dotted key, given by the keys that lead to a table and the key in it. -/
def assign : List String → String → Toml → Change
  | [], key, v, entries => entries.add key v
  | k :: path, key, v, entries =>
    match Entries.find? k entries with
    | none => (assign path key v []).map fun inner => entries ++ [(k, .table .dotted inner)]
    | some (.table origin inner) =>
      if origin = .dotted ∨ (origin = .implied ∧ path ≠ []) then
        (assign path key v inner).map fun inner' => entries.replace k (.table origin inner')
      else none
    | some (.tables rows) =>
      if path = [] then none
      else (changeLast (assign path key v) rows).map fun rows' => entries.replace k (.tables rows')
    | some _ => none

/-- Changes the table to which the keys of a header lead. Tables that are missing on the way are
implied; a list of tables is entered at the last. -/
def within (change : Change) : List String → Change
  | [], entries => change entries
  | k :: path, entries =>
    match Entries.find? k entries with
    | none => (within change path []).map fun inner => entries ++ [(k, .table .implied inner)]
    | some (.table origin inner) =>
      if origin = .braces then none
      else (within change path inner).map fun inner' => entries.replace k (.table origin inner')
    | some (.tables rows) =>
      (changeLast (within change path) rows).map fun rows' => entries.replace k (.tables rows')
    | some _ => none

/-- Opens a table by a header and fills it. -/
def openTable (key : String) (fill : Change) : Change := fun entries =>
  match entries.find? key with
  | none => (fill []).map fun inner => entries ++ [(key, .table .header inner)]
  | some (.table .implied inner) =>
    (fill inner).map fun inner' => entries.replace key (.table .header inner')
  | some _ => none

/-- Opens one more table of a list by a doubled header and fills it. -/
def openRow (key : String) (fill : Change) : Change := fun entries =>
  match entries.find? key with
  | none => (fill []).map fun row => entries ++ [(key, .tables [row])]
  | some (.tables rows) => (fill []).map fun row => entries.replace key (.tables (rows ++ [row]))
  | some _ => none

end Toml

end IndexGateway

import GoldenCheck.Decimal.Shortest

/-!
# TOML documents

A document is a list of keyed items in the order of the file.  Tables remember
how they came about, because that decides whether they may be extended.
-/

namespace GoldenCheck.Toml

/-- How a table came about. -/
inductive Origin where
  /-- It has a header of its own, or is the document itself. -/
  | explicit
  /-- A longer header passes through it. -/
  | implied
  /-- A dotted key passes through it. -/
  | dotted
  deriving DecidableEq

/-- A value or a table. -/
inductive Item where
  | string (text : Text)
  | integer (value : Int)
  | float (value : Decimal.Binary64)
  | boolean (value : Bool)
  | datetime
  | array (items : List Item)
  | inlineTable (origin : Origin) (entries : List (Text × Item))
  | table (origin : Origin) (entries : List (Text × Item))
  | tables (elements : List (List (Text × Item)))

/-- Keyed items in the order of the file. -/
abbrev Entries := List (Text × Item)

/-- The name of an item's type. -/
def Item.typeName : Item → Text
  | .string _ => "string"
  | .integer _ => "integer"
  | .float _ => "float"
  | .boolean _ => "boolean"
  | .datetime => "datetime"
  | .array _ => "array"
  | .inlineTable _ _ => "inline table"
  | .table _ _ => "table"
  | .tables _ => "array of tables"

/-- Replace the item of a key in its place. -/
def Entries.replace (key : Text) (item : Item) (entries : Entries) : Entries :=
  entries.map fun entry => if entry.1 = key then (key, item) else entry

/-- Remove a key. -/
def Entries.remove (key : Text) (entries : Entries) : Entries :=
  entries.filter fun entry => entry.1 ≠ key

/-! ## Building tables -/

/-- Change the table that a path of keys leads to, making the tables on the way
where they are missing.  A path of dotted keys may not pass through a table that
has a header of its own.  `none` means that the path is blocked. -/
def editAt (dotted : Bool) (edit : Origin → Entries → Option Entries) :
    Origin → List Text → Entries → Option Entries
  | origin, [], entries => edit origin entries
  | _, key :: rest, entries =>
      match entries.lookup key with
      | none => do
          let origin := if dotted then .dotted else .implied
          let inner ← editAt dotted edit origin rest []
          pure (entries ++ [(key, .table origin inner)])
      | some (.table origin inner) =>
          if dotted && origin = .explicit then
            none
          else do
            let inner ← editAt dotted edit origin rest inner
            pure (Entries.replace key (.table origin inner) entries)
      | some (.tables elements) =>
          match elements.getLast? with
          | none => none
          | some element => do
              let element ← editAt dotted edit .explicit rest element
              pure (Entries.replace key (.tables (elements.dropLast ++ [element])) entries)
      | some _ => none

/-- The same inside an inline table, where only dotted keys make tables. -/
def editInline (edit : Origin → Entries → Option Entries) :
    Origin → List Text → Entries → Option Entries
  | origin, [], entries => edit origin entries
  | _, key :: rest, entries =>
      match entries.lookup key with
      | none => do
          let inner ← editInline edit .dotted rest []
          pure (entries ++ [(key, .inlineTable .dotted inner)])
      | some (.inlineTable .dotted inner) => do
          let inner ← editInline edit .dotted rest inner
          pure (Entries.replace key (.inlineTable .dotted inner) entries)
      | some _ => none

/-- Add an item to a table.  A key is given once, and a dotted key adds only to a
table made by dotted keys. -/
def addItem (viaDots : Bool) (key : Text) (item : Item) (origin : Origin) (entries : Entries) :
    Option Entries :=
  if (viaDots && origin ≠ .dotted) || (entries.lookup key).isSome then
    none
  else
    some (entries ++ [(key, item)])

/-- Split a path of keys into its last key and the keys before it. -/
def splitPath (path : List Text) : Option (List Text × Text) :=
  path.getLast?.map fun key => (path.dropLast, key)

/-- Add an item under a path of keys. -/
def addUnder (path : List Text) (item : Item) (entries : Entries) : Option Entries := do
  let (above, key) ← splitPath path
  editAt true (addItem (!above.isEmpty) key item) .explicit above entries

/-- Add an item under a path of keys inside an inline table. -/
def addInline (path : List Text) (item : Item) (entries : Entries) : Option Entries := do
  let (above, key) ← splitPath path
  editInline (addItem (!above.isEmpty) key item) .explicit above entries

/-! ## Documents under construction -/

/-- The header whose table is being filled. -/
structure Heading where
  path : List Text
  /-- Whether the table is an element of an array of tables. -/
  isElement : Bool

/-- A document under construction: the finished part, and the table being filled
with its heading. -/
structure Draft where
  root : Entries
  filling : Entries
  heading : Option Heading

/-- The empty document. -/
def Draft.empty : Draft :=
  ⟨[], [], none⟩

/-- Put the table being filled into the document. -/
def Draft.finish (draft : Draft) : Option Entries :=
  match draft.heading with
  | none => some draft.filling
  | some heading => do
      let (above, key) ← splitPath heading.path
      let insert := fun (_ : Origin) (entries : Entries) =>
        match heading.isElement, entries.lookup key with
        | true, some (.tables elements) =>
            some (Entries.replace key (.tables (elements ++ [draft.filling])) entries)
        | false, none => some (entries ++ [(key, .table .explicit draft.filling)])
        | _, _ => none
      editAt false insert .explicit above draft.root

/-- The entries of the table that a path of keys leads to. -/
def entriesAt : List Text → Entries → Option Entries
  | [], entries => some entries
  | key :: rest, entries =>
      match entries.lookup key with
      | some (.table _ inner) => entriesAt rest inner
      | some (.tables elements) => elements.getLast?.bind (entriesAt rest)
      | _ => none

/-- What a table holds when its header comes.  A table that a longer header
passed through keeps what it holds, and anything else under its key is in the
way. -/
def heldUnder (key : Text) (entries : Entries) : Option Entries :=
  match entries.lookup key with
  | none => some []
  | some (.table .implied inner) => some inner
  | some _ => none

/-- Begin the table of a header. -/
def Draft.beginTable (path : List Text) (draft : Draft) : Option Draft := do
  let root ← draft.finish
  let (above, key) ← splitPath path
  let made ← editAt false (fun _ entries => some entries) .explicit above root
  let filling ← heldUnder key (← entriesAt above made)
  let without := fun (_ : Origin) (entries : Entries) => some (Entries.remove key entries)
  let root ← editAt false without .explicit above made
  pure ⟨root, filling, some ⟨path, false⟩⟩

/-- Begin an element of an array of tables. -/
def Draft.beginElement (path : List Text) (draft : Draft) : Option Draft := do
  let root ← draft.finish
  let (above, key) ← splitPath path
  let prepare := fun (_ : Origin) (entries : Entries) =>
    match entries.lookup key with
    | none => some (entries ++ [(key, .tables [])])
    | some (.tables _) => some entries
    | some _ => none
  let root ← editAt false prepare .explicit above root
  pure ⟨root, [], some ⟨path, true⟩⟩

/-- Add an item to the table being filled. -/
def Draft.add (path : List Text) (item : Item) (draft : Draft) : Option Draft :=
  (addUnder path item draft.filling).map fun filling => { draft with filling := filling }

end GoldenCheck.Toml

/-!
# TOML documents

A document is a list of statements, which fill one table of entries. A key may name a table on the
way to an entry, and the same table may be named again and again, but it can be defined only once:
every table remembers how it came to be (`Origin`), and that decides what may still be added.
`Toml.ofStatements` fills the table and refuses a document that defines something twice.
-/

namespace NftExchange

/-- How a table came to be. -/
inductive Toml.Origin where
  /-- The header of a table inside it names it on the way. -/
  | implied
  /-- A dotted key names it on the way. -/
  | dotted
  /-- It has a header of its own, or is the whole document. -/
  | header
  /-- It is written as a value between braces. -/
  | braces
deriving DecidableEq

/-- A value of a document. Numbers with a fraction and points in time keep their text. -/
inductive Toml where
  | string (text : String)
  | integer (n : Int)
  | float (text : String)
  | boolean (b : Bool)
  | datetime (text : String)
  | array (items : List Toml)
  | table (origin : Toml.Origin) (entries : List (String × Toml))
  /-- Tables that share one header; entries go into the latest of them. -/
  | tables (earlier : List (List (String × Toml))) (latest : List (String × Toml))

namespace Toml

instance : Inhabited Toml := ⟨.boolean false⟩

/-- The entries of a table. -/
abbrev Entries := List (String × Toml)

/-- A key with the names of the tables in front of its own. -/
structure Key where
  path : List String
  name : String
deriving DecidableEq

/-- A statement of a document. -/
inductive Statement where
  /-- `key = value` -/
  | entry (key : Key) (value : Toml)
  /-- `[key]` -/
  | header (key : Key)
  /-- `[[key]]` -/
  | itemHeader (key : Key)

namespace Entries

/-- Changes the value under a name; `change` takes what is there and gives what will be there. -/
def update (name : String) (change : Option Toml → Option Toml) : Entries → Option Entries
  | [] => (change none).map fun value => [(name, value)]
  | (key, value) :: rest =>
    if key = name then (change (some value)).map fun value => (key, value) :: rest
    else (update name change rest).map ((key, value) :: ·)

/-- Changes the table that the names of `path` lead to. Tables that are missing on the way are made
with origin `fresh`, and only tables with an origin that `passes` are entered. -/
def within (fresh : Origin) (passes : Origin → Bool)
    (change : Origin → Entries → Option Entries) :
    (path : List String) → Origin → Entries → Option Entries
  | [], origin, entries => change origin entries
  | name :: path, _, entries =>
    entries.update name fun
      | none => (within fresh passes change path fresh []).map (.table fresh)
      | some (.table origin inner) =>
        if passes origin then (within fresh passes change path origin inner).map (.table origin)
        else none
      | some (.tables earlier latest) =>
        (within fresh passes change path .header latest).map (.tables earlier)
      | some _ => none

/-- Changes the table that a header names. -/
def withinHeader (change : Origin → Entries → Option Entries) (path : List String) :
    Entries → Option Entries :=
  within .implied (fun origin => origin != .braces) change path .header

/-- Adds an entry to a table with the given origin. A dotted key must not reach into a table that
was defined otherwise. -/
def insert (key : Key) (value : Toml) : Origin → Entries → Option Entries :=
  within .dotted (fun origin => origin == .implied || origin == .dotted)
    (fun origin entries =>
      if key.path.isEmpty || origin == .dotted then
        entries.update key.name fun
          | none => some value
          | some _ => none
      else none)
    key.path

/-- Opens the table of a header; a table that was only named on the way is defined by it. -/
def openTable (key : Key) : Entries → Option Entries :=
  withinHeader (fun _ entries => entries.update key.name fun
    | none => some (.table .header [])
    | some (.table .implied inner) => some (.table .header inner)
    | some _ => none) key.path

/-- Opens one more of the tables that share a header. -/
def openItem (key : Key) : Entries → Option Entries :=
  withinHeader (fun _ entries => entries.update key.name fun
    | none => some (.tables [] [])
    | some (.tables earlier latest) => some (.tables (earlier ++ [latest]) [])
    | some _ => none) key.path

end Entries

/-- A document that is being filled: its entries and the path of the last header. -/
structure Draft where
  entries : Entries := []
  header : List String := []

/-- Carries out one statement. -/
def Draft.step (draft : Draft) : Statement → Option Draft
  | .entry key value =>
    (Entries.withinHeader (Entries.insert key value) draft.header draft.entries).map
      fun entries => { draft with entries }
  | .header key =>
    (Entries.openTable key draft.entries).map fun entries => ⟨entries, key.path ++ [key.name]⟩
  | .itemHeader key =>
    (Entries.openItem key draft.entries).map fun entries => ⟨entries, key.path ++ [key.name]⟩

/-- The entries that statements make, if nothing is defined twice. -/
def ofStatements (statements : List Statement) : Option Entries :=
  (statements.foldlM Draft.step {}).map Draft.entries

/-- The table between braces with the given entries. -/
def ofBraces (entries : List (Key × Toml)) : Option Toml :=
  (entries.foldlM (fun table (key, value) => Entries.insert key value .braces table) []).map
    (.table .braces)

/-- The value of an entry at the top of a document. -/
def Entries.get? (entries : Entries) (name : String) : Option Toml := entries.lookup name

end Toml

end NftExchange

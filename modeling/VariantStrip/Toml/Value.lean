/-
TOML documents as values.

A table knows how it came about, since that decides what may still be added to it:

* `TomlTable.assign` gives a value to a key,
* `TomlTable.startTable` and `TomlTable.startItem` start the table that a header names.
-/

namespace VariantStrip

/-- How a table came about. -/
inductive TableOrigin where
  /-- By a header of its own. -/
  | header
  /-- On the way to the table of a header. -/
  | implied
  /-- By a key with dots. -/
  | dotted
  /-- As a value in braces. -/
  | inline
  deriving DecidableEq, Repr

/-- A value of TOML. Of numbers and times it is only known that they are such. -/
inductive Toml where
  | bool (b : Bool)
  | text (s : String)
  | number
  | time
  | array (items : List Toml)
  | table (origin : TableOrigin) (fields : List (String × Toml))
  /-- The tables that headers in double brackets started, the last one first. -/
  | tables (items : List (List (String × Toml)))

/-- The fields of a table, in order. -/
abbrev TomlTable := List (String × Toml)

namespace TomlTable

/-- Replaces the value of a key, or adds the key. -/
def put (key : String) (value : Toml) : TomlTable → TomlTable
  | [] => [(key, value)]
  | (k, v) :: rest => if k = key then (key, value) :: rest else (k, v) :: put key value rest

/-- Gives a value to a key with dots. The key must be new, and the tables on the way may not have
been written out elsewhere; `own` tells whether keys may be added to the table itself. -/
def assign (value : Toml) (own : Bool) : List String → TomlTable → Option TomlTable
  | [], _ => none
  | [key], t => if own && (t.lookup key).isNone then some (t.put key value) else none
  | key :: keys, t =>
    match t.lookup key with
    | none => (assign value true keys []).map fun u => t.put key (.table .dotted u)
    | some (.table .dotted u) =>
      (assign value true keys u).map fun u => t.put key (.table .dotted u)
    | some (.table .implied u) =>
      (assign value false keys u).map fun u => t.put key (.table .implied u)
    | some (.tables (u :: us)) =>
      (assign value false keys u).map fun u => t.put key (.tables (u :: us))
    | some _ => none

/-- Changes the table that the keys of a header lead to. Tables that are missing on the way are
implied; of tables in double brackets the last one is meant. -/
def within (change : TomlTable → Option TomlTable) : List String → TomlTable → Option TomlTable
  | [], t => change t
  | key :: keys, t =>
    match t.lookup key with
    | none => (within change keys []).map fun u => t.put key (.table .implied u)
    | some (.table origin u) =>
      if origin = .inline then none
      else (within change keys u).map fun u => t.put key (.table origin u)
    | some (.tables (u :: us)) =>
      (within change keys u).map fun u => t.put key (.tables (u :: us))
    | some _ => none

/-- Starts a table by its header; it may be there if it was only implied. -/
def startTable (key : String) (t : TomlTable) : Option TomlTable :=
  match t.lookup key with
  | none => some (t.put key (.table .header []))
  | some (.table .implied u) => some (t.put key (.table .header u))
  | some _ => none

/-- Starts the next table of a list by its header in double brackets. -/
def startItem (key : String) (t : TomlTable) : Option TomlTable :=
  match t.lookup key with
  | none => some (t.put key (.tables [[]]))
  | some (.tables us) => some (t.put key (.tables ([] :: us)))
  | some _ => none

end TomlTable

/-- A line of a TOML document. -/
inductive TomlLine where
  | assign (keys : List String) (value : Toml)
  | table (keys : List String)
  | item (keys : List String)

/-- A document up to some line: its tables, and the keys of the header that its next lines belong
to. -/
structure TomlDraft where
  root : TomlTable := []
  header : List String := []

namespace TomlDraft

/-- Adds a line. -/
def add (d : TomlDraft) : TomlLine → Option TomlDraft
  | .assign keys value => do
    return { d with root := ← TomlTable.within (TomlTable.assign value true keys) d.header d.root }
  | .table keys => do
    let key ← keys.getLast?
    return ⟨← TomlTable.within (TomlTable.startTable key) keys.dropLast d.root, keys⟩
  | .item keys => do
    let key ← keys.getLast?
    return ⟨← TomlTable.within (TomlTable.startItem key) keys.dropLast d.root, keys⟩

end TomlDraft

end VariantStrip

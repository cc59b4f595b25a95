import ViewBinding.Document.Basic
import ViewBinding.SortedMap

/-!
# Tables under construction

A TOML text fills its tables line by line. Each table remembers how it came to be, because that
decides what may still be added: a table with a header of its own has no second header and takes
no dotted keys from outside, a table that dotted keys have entered has no header, and values in the
text are never extended.

* `Node.document`: the document of a table has its keys in ascending order.
-/

namespace ViewBinding.Toml

/-- How a table came to be: by a header of its own, by the header of a table inside it, or by dotted
keys, which may also claim a table that only headers of inner tables have made. -/
inductive Origin where
  | header
  | path
  | dotted
  deriving DecidableEq, Repr

/-- What stands under a key: a value of the text, a table, or tables that were added one by one. The
entries of a table ascend by key. -/
inductive Node where
  | value (d : Document)
  | table (origin : Origin) (entries : List (String × Node))
  | tables (elements : List (List (String × Node)))

/-- The entries of a table. -/
abbrev Entries := List (String × Node)

mutual

/-- The document that a node stands for. -/
def Node.document : Node → Document
  | .value d => d
  | .table _ entries => .record (documentEntries entries)
  | .tables elements => .list (documentTables elements)

/-- The entries as those of a document. -/
def documentEntries : List (String × Node) → List (Option String × Document)
  | [] => []
  | (key, node) :: rest => (some key, node.document) :: documentEntries rest

/-- The tables as items of a document. -/
def documentTables : List (List (String × Node)) → List Document
  | [] => []
  | entries :: rest => .record (documentEntries entries) :: documentTables rest

end

/-- Changes the table at the end of a path, from `entries` down. Tables that are missing are made;
`dotted` says whether the path is one of dotted keys, which claim every table on it. Nothing results
where the path meets a value or a table that it must not enter. -/
def descend (dotted : Bool) (change : Origin → Entries → Option Entries) (origin : Origin)
    (entries : Entries) : List String → Option Entries
  | [] => change origin entries
  | key :: path =>
    match lookupEntry key entries with
    | none => do
      let made := if dotted then Origin.dotted else Origin.path
      let inner ← descend dotted change made [] path
      return insertEntry key (.table made inner) entries
    | some (.table made inner) =>
      if dotted && made = .header then none
      else do
        let made := if dotted then Origin.dotted else made
        let inner ← descend dotted change made inner path
        return insertEntry key (.table made inner) entries
    | some (.tables elements) =>
      match elements.reverse with
      | [] => none
      | last :: before => do
        let inner ← descend dotted change .header last path
        return insertEntry key (.tables (inner :: before).reverse) entries
    | some (.value _) => none

/-- Splits a dotted key into its path and its last key. -/
def splitKey : List String → Option (List String × String)
  | [] => none
  | [key] => some ([], key)
  | key :: rest => (splitKey rest).map fun (path, last) => (key :: path, last)

/-- Puts a value under a dotted key of a table. -/
def putValue (origin : Origin) (entries : Entries) (keys : List String) (d : Document) :
    Option Entries := do
  let (path, last) ← splitKey keys
  descend true (fun made inner =>
    if !path.isEmpty && made = .header then none
    else
      match lookupEntry last inner with
      | some _ => none
      | none => some (insertEntry last (.value d) inner)) origin entries path

/-- Opens the table of a header. -/
def openTable (root : Entries) (keys : List String) : Option Entries := do
  let (path, last) ← splitKey keys
  descend false (fun _ inner =>
    match lookupEntry last inner with
    | none => some (insertEntry last (.table .header []) inner)
    | some (.table .path inside) => some (insertEntry last (.table .header inside) inner)
    | some _ => none) .header root path

/-- Adds a table to those of a header. -/
def addTable (root : Entries) (keys : List String) : Option Entries := do
  let (path, last) ← splitKey keys
  descend false (fun _ inner =>
    match lookupEntry last inner with
    | none => some (insertEntry last (.tables [[]]) inner)
    | some (.tables elements) => some (insertEntry last (.tables (elements ++ [[]])) inner)
    | some _ => none) .header root path

/-- Puts a value under a dotted key of the table that a header names. -/
def putUnder (root : Entries) (header keys : List String) (d : Document) : Option Entries :=
  descend false (fun origin inner => putValue origin inner keys d) .header root header

end ViewBinding.Toml

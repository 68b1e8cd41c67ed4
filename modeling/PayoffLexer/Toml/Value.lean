import PayoffLexer.Decimal.Binary64

/-!
# TOML values

A table keeps its entries in the order of their keys' first appearance and remembers how it came
to be, because that decides which later statements may add to it.
-/

namespace PayoffLexer.Toml

inductive Origin
  /-- Named by a header of its own. -/
  | header
  /-- Named only on the way to another table's header. -/
  | path
  /-- Named by a dotted key. -/
  | dotted
  /-- Written between braces. -/
  | inline
deriving DecidableEq

inductive Value
  | string (text : String)
  | integer (value : Int)
  | float (value : Decimal.Binary64)
  | boolean (value : Bool)
  /-- A date, a time, or both, as written. -/
  | moment (text : String)
  | array (items : List Value)
  | table (origin : Origin) (entries : List (String × Value))
  /-- Tables under one repeated header: the last one, and those before it. -/
  | tables (last : List (String × Value)) (earlier : List (List (String × Value)))

abbrev Entries := List (String × Value)

namespace Entries

def replace (key : String) (value : Value) (entries : Entries) : Entries :=
  entries.map fun entry => if entry.1 = key then (key, value) else entry

def add? (key : String) (value : Value) (entries : Entries) : Option Entries :=
  match entries.lookup key with
  | none => some (entries ++ [(key, value)])
  | some _ => none

/-- May a dotted key lead through a table of this origin? It may not end in one that only headers
name. -/
def admitsDotted (origin : Origin) (last : Bool) : Bool :=
  match origin with
  | .dotted => true
  | .path => !last
  | .header | .inline => false

/-- Adds a value under a dotted key: the names before the last one, and the last one. -/
def addDotted? : List String → String → Value → Entries → Option Entries
  | [], key, value, entries => entries.add? key value
  | name :: names, key, value, entries =>
    match entries.lookup name with
    | none =>
      (addDotted? names key value []).bind fun inner => entries.add? name (.table .dotted inner)
    | some (.table origin inner) =>
      if admitsDotted origin names.isEmpty then
        (addDotted? names key value inner).map fun inner =>
          entries.replace name (.table origin inner)
      else none
    | some (.tables last earlier) =>
      if names.isEmpty then none
      else
        (addDotted? names key value last).map fun last =>
          entries.replace name (.tables last earlier)
    | some _ => none

/-- Changes the entries of the table at the end of a path of headers. Tables that are missing on
the way are made, and a repeated header stands for its last table. -/
def alter? (change : Entries → Option Entries) : List String → Entries → Option Entries
  | [], entries => change entries
  | name :: names, entries =>
    match entries.lookup name with
    | none => (alter? change names []).bind fun inner => entries.add? name (.table .path inner)
    | some (.table .inline _) => none
    | some (.table origin inner) =>
      (alter? change names inner).map fun inner => entries.replace name (.table origin inner)
    | some (.tables last earlier) =>
      (alter? change names last).map fun last => entries.replace name (.tables last earlier)
    | some _ => none

/-- Makes the table that a header names. It may exist only as a stop on the way to another header.
-/
def openTable? (key : String) (entries : Entries) : Option Entries :=
  match entries.lookup key with
  | none => entries.add? key (.table .header [])
  | some (.table .path inner) => some (entries.replace key (.table .header inner))
  | some _ => none

def openElement? (key : String) (entries : Entries) : Option Entries :=
  match entries.lookup key with
  | none => entries.add? key (.tables [] [])
  | some (.tables last earlier) => some (entries.replace key (.tables [] (last :: earlier)))
  | some _ => none

end Entries

end PayoffLexer.Toml

import Gatehouse.Toml.Value

namespace Gatehouse

/-!
# Defining keys and tables

Where definitions may go. A key is defined once. A dotted key adds to tables
made by dotted keys and to no others; on its way it may pass through tables that
are implied or made by dotted keys, and through the last table of an array of
tables. A header names a table that is new or was only implied.
-/

namespace Toml

/-- The entries of the last of some tables, and the tables with other entries in their place. -/
def lastTable? : List Value → Option (Entries × (Entries → List Value))
  | [] => none
  | [.table origin entries] => some (entries, fun entries => [.table origin entries])
  | first :: rest => do
      let (entries, rebuild) ← lastTable? rest
      return (entries, fun entries => first :: rebuild entries)

/-- Whether dotted keys may pass through or add to a table. -/
def TableOrigin.isImplicit : TableOrigin → Bool
  | .implied | .dotted => true
  | .inline | .header => false

/-- Define a key in a table; `path` leads from the table to the one that the key is added to. -/
def define? (origin : TableOrigin) (entries : Entries) (path : List String) (key : String)
    (value : Value) : Option Entries :=
  match path with
  | [] => do
      guard (origin = .dotted)
      guard (entries.get? key).isNone
      return entries ++ [(key, value)]
  | name :: rest =>
      match entries.get? name with
      | none => do
          let inner ← define? .dotted [] rest key value
          return entries.put name (.table .dotted inner)
      | some (.table innerOrigin inner) => do
          guard innerOrigin.isImplicit
          let inner ← define? innerOrigin inner rest key value
          return entries.put name (.table innerOrigin inner)
      | some (.tables items) => do
          let (inner, rebuild) ← lastTable? items
          let inner ← define? .header inner rest key value
          return entries.put name (.tables (rebuild inner))
      | some _ => none

/-- Define a key, dotted or not, in the table whose body it stands in. -/
def defineIn? (entries : Entries) (path : List String) (key : String) (value : Value) :
    Option Entries :=
  match path with
  | [] => define? .dotted entries [] key value
  | _ => define? .header entries path key value

/-- Change the table that the keys of a header lead to; tables on the way are implied. -/
def within? (change : Entries → Option Entries) (entries : Entries) : List String → Option Entries
  | [] => change entries
  | name :: rest =>
      match entries.get? name with
      | none => do
          let inner ← within? change [] rest
          return entries.put name (.table .implied inner)
      | some (.table .inline _) => none
      | some (.table origin inner) => do
          let inner ← within? change inner rest
          return entries.put name (.table origin inner)
      | some (.tables items) => do
          let (inner, rebuild) ← lastTable? items
          let inner ← within? change inner rest
          return entries.put name (.tables (rebuild inner))
      | some _ => none

/-- Make a table as a header names it, and answer its entries so far. -/
def open? (key : String) (entries : Entries) : Option Entries :=
  match entries.get? key with
  | none => some []
  | some (.table .implied inner) => some inner
  | some _ => none

/-- Add a table to an array of tables. -/
def append? (table : Value) (key : String) (entries : Entries) : Option Entries :=
  match entries.get? key with
  | none => some (entries.put key (.tables [table]))
  | some (.tables items) => some (entries.put key (.tables (items ++ [table])))
  | some _ => none

end Toml

end Gatehouse

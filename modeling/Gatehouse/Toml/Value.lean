namespace Gatehouse

/-!
# TOML values

The values of a TOML document. A table remembers how it was defined, because
that decides who may still add to it: a header may take over a table that was
only implied by longer headers, and a dotted key may add to a table that other
dotted keys made.
-/

namespace Toml

/-- How a table was defined. -/
inductive TableOrigin where
  /-- In braces. -/
  | inline
  /-- By a header of its own. -/
  | header
  /-- By the header of a table inside it. -/
  | implied
  /-- By a dotted key. -/
  | dotted
deriving DecidableEq, Repr

/-- A value; floating-point numbers and moments are kept as written. -/
inductive Value where
  | string (value : String)
  | integer (value : Int)
  | float (literal : String)
  | boolean (value : Bool)
  | moment (literal : String)
  /-- An array in brackets. -/
  | array (items : List Value)
  /-- An array of tables that each have a header of their own. -/
  | tables (items : List Value)
  | table (origin : TableOrigin) (entries : List (String × Value))
deriving Repr, Inhabited

/-- The entries of a table. -/
abbrev Entries := List (String × Value)

namespace Entries

def get? (entries : Entries) (key : String) : Option Value :=
  entries.lookup key

/-- Replace the value of a key, or add the key at the end. -/
def put (entries : Entries) (key : String) (value : Value) : Entries :=
  match entries with
  | [] => [(key, value)]
  | entry :: rest =>
      if entry.1 = key then (key, value) :: rest else entry :: put rest key value

/-- Take a key out. -/
def erase (entries : Entries) (key : String) : Entries :=
  entries.filter fun entry => entry.1 ≠ key

end Entries

end Toml

end Gatehouse

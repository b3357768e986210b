import Gatehouse.Toml.Term

namespace Gatehouse

/-!
# Documents

A document is a sequence of lines: definitions, headers, comments and nothing.
Definitions go to the table of the last header before them, or to the root.
-/

namespace Toml

/-- The table that definitions go to. -/
structure Section where
  /-- The keys that lead to the table; none for the root. -/
  path : List String
  /-- Whether the table is a new item of an array of tables. -/
  isItem : Bool
  body : Entries

/-- A document as far as it is read: the closed tables, and the one that is open. -/
structure Draft where
  root : Entries
  current : Section

namespace Draft

/-- Nothing read. -/
def empty : Draft where
  root := []
  current := { path := [], isItem := false, body := [] }

/-- The root with the open table put in its place. -/
def close? (draft : Draft) : Option Entries :=
  let current := draft.current
  let table := Value.table .header current.body
  match current.path.getLast? with
  | none => some current.body
  | some key =>
      let change := fun (parent : Entries) =>
        if current.isItem then append? table key parent else some (parent.put key table)
      within? change draft.root current.path.dropLast

/-- The entries that a table already has when its header comes. -/
def entriesAt? (entries : Entries) : List String → Option Entries
  | [] => some entries
  | [key] => open? key entries
  | name :: rest =>
      match entries.get? name with
      | none => some []
      | some (.table .inline _) => none
      | some (.table _ inner) => entriesAt? inner rest
      | some (.tables items) => do
          let (inner, _) ← lastTable? items
          entriesAt? inner rest
      | some _ => none

/-- Go on with the table of a header. -/
def startTable? (draft : Draft) (path : List String) : Option Draft := do
  let root ← draft.close?
  let body ← entriesAt? root path
  return { root := root, current := { path := path, isItem := false, body := body } }

/-- Go on with a new item of an array of tables. -/
def startItem? (draft : Draft) (path : List String) : Option Draft := do
  let root ← draft.close?
  return { root := root, current := { path := path, isItem := true, body := [] } }

/-- Define a key of the open table. -/
def define? (draft : Draft) (keys : List String) (value : Value) : Option Draft := do
  let key ← keys.getLast?
  let body ← defineIn? draft.current.body keys.dropLast key value
  return { draft with current := { draft.current with body := body } }

end Draft

/-- Read a header up to and with its last bracket. -/
def headerEnd? (brackets : List Char) (chars : List Char) : Option (List String × List Char) := do
  let (path, rest) ← path? chars
  guard (brackets.isPrefixOf rest)
  return (path, ← endOfLine? (rest.drop brackets.length))

/-- Read the definition of a key. -/
def definition? (chars : List Char) : Option (List String × Value × List Char) := do
  let (keys, rest) ← path? chars
  match rest with
  | '=' :: rest =>
      let (value, rest) ← read? (skipBlanks rest)
      return (keys, value, ← endOfLine? rest)
  | _ => none

/-- Read a line onto a draft. -/
def line? (draft : Draft) (chars : List Char) : Option (Draft × List Char) :=
  match chars with
  | '#' :: _ | '\n' :: _ | '\r' :: _ => do return (draft, ← endOfLine? chars)
  | '[' :: '[' :: rest => do
      let (path, rest) ← headerEnd? [']', ']'] rest
      return (← draft.startItem? path, rest)
  | '[' :: rest => do
      let (path, rest) ← headerEnd? [']'] rest
      return (← draft.startTable? path, rest)
  | _ => do
      let (keys, value, rest) ← definition? chars
      return (← draft.define? keys value, rest)

/-- Read the remaining lines onto a draft; the fuel bounds the number of lines. -/
def lines? : (fuel : Nat) → Draft → List Char → Option Draft
  | 0, _, _ => none
  | fuel + 1, draft, chars =>
      match skipBlanks chars with
      | [] => some draft
      | chars => do
          let (draft, rest) ← line? draft chars
          lines? fuel draft rest

/-- A text without a byte order mark in front. -/
def skipByteOrderMark : List Char → List Char
  | '\uFEFF' :: rest => rest
  | chars => chars

/-- The root table of a document. -/
def document? (text : String) : Option Value := do
  let chars := skipByteOrderMark text.toList
  let draft ← lines? (chars.length + 1) Draft.empty chars
  return .table .header (← draft.close?)

end Toml

end Gatehouse

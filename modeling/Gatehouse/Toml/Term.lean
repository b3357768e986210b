import Gatehouse.Toml.Definition
import Gatehouse.Toml.Key
import Gatehouse.Toml.Moment
import Gatehouse.Toml.Number

namespace Gatehouse

/-!
# Terms

The right-hand side of a key: a text, a number, a moment, a boolean, an array in
brackets or a table in braces. An array may go over several lines, hold comments
and end with a comma; a table in braces may do none of these. The fuel bounds
the number of steps and is more than the characters allow for.
-/

namespace Toml

/-- A term, and what follows it. -/
abbrev TermResult := Option (Value × List Char)

/-- The characters between two places of a text. -/
def literalBetween (chars rest : List Char) : String :=
  String.ofList (chars.take (chars.length - rest.length))

/-- Read a moment or a number. -/
def scalar? (chars : List Char) : TermResult :=
  if startsMoment chars then do
    let rest ← moment? chars
    return (.moment (literalBetween chars rest), rest)
  else do
    let (number, rest) ← number? chars
    match number with
    | .integer value => return (.integer value, rest)
    | .float => return (.float (literalBetween chars rest), rest)

mutual

/-- Read a term that stands inside `depth` arrays and tables in braces. -/
def term? : (fuel depth : Nat) → List Char → TermResult
  | 0, _, _ => none
  | fuel + 1, depth, chars =>
      match chars with
      | '"' :: _ | '\'' :: _ => (text? chars).map fun (text, rest) => (.string text, rest)
      | '[' :: rest => do
          guard (depth + 1 < nestingLimit)
          let (values, rest) ← arrayItems? fuel (depth + 1) rest
          return (.array values, rest)
      | '{' :: rest => do
          guard (depth + 1 < nestingLimit)
          match skipBlanks rest with
          | '}' :: rest => return (.table .inline [], rest)
          | rest =>
              let (entries, rest) ← tableItems? fuel (depth + 1) [] rest
              return (.table .inline entries, rest)
      | 't' :: 'r' :: 'u' :: 'e' :: rest => some (.boolean true, rest)
      | 'f' :: 'a' :: 'l' :: 's' :: 'e' :: rest => some (.boolean false, rest)
      | _ => scalar? chars

/-- Read the items of an array and its closing bracket. -/
def arrayItems? : (fuel depth : Nat) → List Char → Option (List Value × List Char)
  | 0, _, _ => none
  | fuel + 1, depth, chars => do
      match ← skipLines? chars.length chars with
      | ']' :: rest => return ([], rest)
      | chars =>
          let (value, rest) ← term? fuel depth chars
          match ← skipLines? rest.length rest with
          | ',' :: rest =>
              let (values, rest) ← arrayItems? fuel depth rest
              return (value :: values, rest)
          | ']' :: rest => return ([value], rest)
          | _ => none

/-- Read the definitions of a table in braces and its closing brace. -/
def tableItems? : (fuel depth : Nat) → Entries → List Char → Option (Entries × List Char)
  | 0, _, _, _ => none
  | fuel + 1, depth, entries, chars => do
      let (keys, rest) ← path? chars
      match rest with
      | '=' :: rest =>
          let (value, rest) ← term? fuel depth (skipBlanks rest)
          let entries ← defineIn? entries keys.dropLast (keys.getLast?.getD "") value
          match skipBlanks rest with
          | ',' :: rest => tableItems? fuel depth entries rest
          | '}' :: rest => return (entries, rest)
          | _ => none
      | _ => none

end

def read? (chars : List Char) : TermResult :=
  term? (2 * chars.length + 2) 0 chars

end Toml

end Gatehouse

import Gatehouse.Toml.Text

namespace Gatehouse

/-!
# Keys

A key is bare, or a text on one line. Keys with points between them name a table
in a table; a path has fewer than eighty keys.
-/

namespace Toml

/-- A path has fewer keys than this, and values nest less deeply than this. -/
def nestingLimit : Nat := 80

/-- A character of a bare key. -/
def isBareKeyChar (char : Char) : Bool :=
  char.isAlphanum || char = '-' || char = '_'

/-- Read a key. -/
def key? (chars : List Char) : Option (String × List Char) :=
  match chars with
  | '"' :: _ | '\'' :: _ => lineText? chars
  | _ =>
      let bare := chars.takeWhile isBareKeyChar
      if bare.isEmpty then none
      else some (String.ofList bare, chars.dropWhile isBareKeyChar)

/-- Read the keys of a path, and the blanks around each. -/
def keys? : (fuel : Nat) → List Char → Option (List String × List Char)
  | 0, _ => none
  | fuel + 1, chars => do
      let (key, rest) ← key? (skipBlanks chars)
      match skipBlanks rest with
      | '.' :: rest => do
          let (keys, after) ← keys? fuel rest
          return (key :: keys, after)
      | rest => return ([key], rest)

/-- Read a path. -/
def path? (chars : List Char) : Option (List String × List Char) := do
  let (keys, rest) ← keys? (chars.length + 1) chars
  guard (keys.length < nestingLimit)
  return (keys, rest)

end Toml

end Gatehouse

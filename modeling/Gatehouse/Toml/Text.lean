import Gatehouse.Text.Hexadecimal
import Gatehouse.Toml.Blank

namespace Gatehouse

/-!
# Texts

The four kinds of text: basic ones between double quotes, with escapes, and
literal ones between single quotes, without; each on one line, or between three
quotes on several. A text on several lines drops a line end right after its
opening quotes, and may have up to two quotes right before its closing ones.
-/

namespace Toml

/-- What is read so far of a text, last character first, and what follows it. -/
abbrev TextResult := Option (List Char × List Char)

/-- The character that hexadecimal digits name, unless it is a surrogate or out of range. -/
def namedChar? (digits : List Char) : Option Char := do
  let code ← Hexadecimal.number? digits
  if code < 0xD800 ∨ (0xDFFF < code ∧ code < 0x110000) then some (Char.ofNat code) else none

/-- The character that a letter behind a backslash stands for. -/
def escapedChar? : Char → Option Char
  | 'b' => some '\x08'
  | 't' => some '\t'
  | 'n' => some '\n'
  | 'f' => some '\x0c'
  | 'r' => some '\r'
  | '"' => some '"'
  | '\\' => some '\\'
  | _ => none

/-- The rest of a basic text on one line. -/
def basicText? (read : List Char) : List Char → TextResult
  | [] => none
  | '"' :: rest => some (read, rest)
  | '\\' :: 'u' :: a :: b :: c :: d :: rest => do
      basicText? ((← namedChar? [a, b, c, d]) :: read) rest
  | '\\' :: 'U' :: a :: b :: c :: d :: e :: f :: g :: h :: rest => do
      basicText? ((← namedChar? [a, b, c, d, e, f, g, h]) :: read) rest
  | '\\' :: char :: rest => do basicText? ((← escapedChar? char) :: read) rest
  | char :: rest => if isPlain char && char ≠ '\\' then basicText? (char :: read) rest else none

/-- Whether only blanks stand before the end of the line. -/
def atLineEnd (chars : List Char) : Bool :=
  (newline? (skipBlanks chars)).isSome

/--
The rest of a basic text on several lines. While `skipping`, after a backslash
at the end of a line, blanks and line ends are passed over.
-/
def basicLines? (skipping : Bool) (read : List Char) : List Char → TextResult
  | [] => none
  | '"' :: '"' :: '"' :: '"' :: '"' :: rest => some ('"' :: '"' :: read, rest)
  | '"' :: '"' :: '"' :: '"' :: rest => some ('"' :: read, rest)
  | '"' :: '"' :: '"' :: rest => some (read, rest)
  | '\\' :: 'u' :: a :: b :: c :: d :: rest => do
      basicLines? false ((← namedChar? [a, b, c, d]) :: read) rest
  | '\\' :: 'U' :: a :: b :: c :: d :: e :: f :: g :: h :: rest => do
      basicLines? false ((← namedChar? [a, b, c, d, e, f, g, h]) :: read) rest
  | '\r' :: '\n' :: rest =>
      if skipping then basicLines? true read rest else basicLines? false ('\n' :: read) rest
  | '\\' :: char :: rest =>
      if atLineEnd (char :: rest) then
        basicLines? true read rest
      else do
        basicLines? false ((← escapedChar? char) :: read) rest
  | char :: rest =>
      if skipping && (isBlank char || char = '\n') then basicLines? true read rest
      else if char = '\n' then basicLines? false ('\n' :: read) rest
      else if isPlain char && char ≠ '\\' then basicLines? false (char :: read) rest
      else none

/-- The rest of a literal text on one line. -/
def literalText? (read : List Char) : List Char → TextResult
  | [] => none
  | '\'' :: rest => some (read, rest)
  | char :: rest => if isPlain char then literalText? (char :: read) rest else none

/-- The rest of a literal text on several lines. -/
def literalLines? (read : List Char) : List Char → TextResult
  | [] => none
  | '\'' :: '\'' :: '\'' :: '\'' :: '\'' :: rest => some ('\'' :: '\'' :: read, rest)
  | '\'' :: '\'' :: '\'' :: '\'' :: rest => some ('\'' :: read, rest)
  | '\'' :: '\'' :: '\'' :: rest => some (read, rest)
  | '\r' :: '\n' :: rest => literalLines? ('\n' :: read) rest
  | char :: rest =>
      if isPlain char || char = '\n' then literalLines? (char :: read) rest else none

/-- The text read, in order. -/
def textOf (result : TextResult) : Option (String × List Char) :=
  result.map fun (read, rest) => (String.ofList read.reverse, rest)

/-- What follows a line end right after opening quotes. -/
def skipFirstNewline (chars : List Char) : List Char :=
  (newline? chars).getD chars

/-- Read a text on one line. -/
def lineText? : List Char → Option (String × List Char)
  | '"' :: rest => textOf (basicText? [] rest)
  | '\'' :: rest => textOf (literalText? [] rest)
  | _ => none

/-- Read a text of any kind. -/
def text? : List Char → Option (String × List Char)
  | '"' :: '"' :: '"' :: rest => textOf (basicLines? false [] (skipFirstNewline rest))
  | '\'' :: '\'' :: '\'' :: rest => textOf (literalLines? [] (skipFirstNewline rest))
  | chars => lineText? chars

end Toml

end Gatehouse

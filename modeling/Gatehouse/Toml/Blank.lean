namespace Gatehouse

/-!
# Blanks, comments and line ends

A line ends with a line feed, or with a carriage return and a line feed; a
carriage return on its own is nowhere allowed. Control characters other than
tab are allowed nowhere either, and bytes beyond ASCII everywhere in texts and
comments.
-/

namespace Toml

/-- Space or tab. -/
def isBlank (char : Char) : Bool :=
  char = ' ' || char = '\t'

/-- A character that may stand in comments and texts. -/
def isPlain (char : Char) : Bool :=
  char = '\t' || (0x20 ≤ char.toNat && char.toNat ≠ 0x7F)

/-- Pass over blanks. -/
def skipBlanks (chars : List Char) : List Char :=
  chars.dropWhile isBlank

/-- Pass over the end of a line. -/
def newline? : List Char → Option (List Char)
  | '\n' :: rest => some rest
  | '\r' :: '\n' :: rest => some rest
  | _ => none

/-- Pass over a comment, if one starts here. -/
def skipComment (chars : List Char) : List Char :=
  match chars with
  | '#' :: rest => rest.dropWhile isPlain
  | _ => chars

/-- Pass over what may follow on a line, and the end of the line or of the text. -/
def endOfLine? (chars : List Char) : Option (List Char) :=
  match skipComment (skipBlanks chars) with
  | [] => some []
  | rest => newline? rest

/-- Pass over blanks, comments and line ends; answers nothing if a comment does not end a line. -/
def skipLines? (fuel : Nat) (chars : List Char) : Option (List Char) :=
  match fuel, skipBlanks chars with
  | fuel + 1, '#' :: rest => do skipLines? fuel (← newline? (rest.dropWhile isPlain))
  | fuel + 1, '\n' :: rest => skipLines? fuel rest
  | fuel + 1, '\r' :: rest => do skipLines? fuel (← newline? ('\r' :: rest))
  | _, rest => some rest

end Toml

end Gatehouse

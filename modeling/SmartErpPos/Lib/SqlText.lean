/-
  Lib/SqlText.lean --- text functions of the database.

  `LIKE` matches a whole text against a pattern: `%` stands for any part, `_` for one
  character, and a backslash takes the character after it literally.
-/
import Mathlib.Data.List.Basic

set_option autoImplicit false

namespace SmartErpPos.Lib

/-- `TRIM(text)`: without blanks at both ends. -/
def sqlTrim (text : String) : String :=
  let chars := text.toList.dropWhile (· = ' ')
  String.ofList (chars.reverse.dropWhile (· = ' ')).reverse

/-- A pattern matches the whole of some characters. -/
def likeMatch : List Char → List Char → Bool
  | [], chars => chars.isEmpty
  | '%' :: rest, chars => chars.tails.any (likeMatch rest)
  | '_' :: rest, chars =>
    match chars with
    | [] => false
    | _ :: chars => likeMatch rest chars
  | '\\' :: p :: rest, chars =>
    match chars with
    | [] => false
    | c :: chars => decide (c = p) && likeMatch rest chars
  | p :: rest, chars =>
    match chars with
    | [] => false
    | c :: chars => decide (c = p) && likeMatch rest chars

/-- `text ILIKE pattern`. -/
def ilike (text pattern : String) : Bool :=
  likeMatch (pattern.toList.map Char.toLower) (text.toList.map Char.toLower)

end SmartErpPos.Lib

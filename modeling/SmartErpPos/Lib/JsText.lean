/-
  Lib/JsText.lean --- the string methods of scripting languages.

  `trim` drops the white space and line terminators the language names at both
  ends, `slice(0, n)` keeps the first characters and `startsWith` tests them.
  `isUuidText` is the usual pattern for the text of a UUID.
-/
import Mathlib.Data.List.Basic

set_option autoImplicit false

namespace SmartErpPos.Lib

/-- White space and line terminators, by code point. -/
def isJsSpace (c : Char) : Bool :=
  let n := c.toNat
  (9 ≤ n && n ≤ 13) || n = 32 || n = 160 || n = 5760 || (8192 ≤ n && n ≤ 8202) || n = 8232 ||
    n = 8233 || n = 8239 || n = 8287 || n = 12288 || n = 65279

/-- `s.trim()`. -/
def jsTrim (s : String) : String :=
  let chars := s.toList.dropWhile isJsSpace
  String.ofList (chars.reverse.dropWhile isJsSpace).reverse

/-- `s.slice(0, n)`. -/
def jsPrefix (n : ℕ) (s : String) : String := String.ofList (s.toList.take n)

/-- `s?.trim() || undefined`: a text with something in it, trimmed. -/
def trimmedText (s : Option String) : Option String :=
  (s.map jsTrim).filter fun t => t ≠ ""

/-- `text.startsWith(stem)`. -/
def jsStartsWith (stem text : String) : Bool := stem.toList.isPrefixOf text.toList

/-- `text || fallback`. -/
def orText (text : Option String) (fallback : String) : String :=
  (text.filter fun t => t ≠ "").getD fallback

def isHexDigit (c : Char) : Bool :=
  c.isDigit || ('a' ≤ c && c ≤ 'f') || ('A' ≤ c && c ≤ 'F')

/-- `/^[0-9a-f]{8}-[0-9a-f]{4}-[0-9a-f]{4}-[0-9a-f]{4}-[0-9a-f]{12}$/i`. -/
def isUuidText (text : String) : Bool :=
  let groups := text.toList.splitOn '-'
  decide (groups.map List.length = [8, 4, 4, 4, 12]) && groups.all fun group => group.all isHexDigit

/-- The same pattern with a version digit from a list and the usual variant digit. -/
def isVersionedUuidText (versions : List Char) (text : String) : Bool :=
  let groups := text.toList.splitOn '-'
  isUuidText text && ((groups.getD 2 []).head?.any fun c => decide (c ∈ versions)) &&
    (groups.getD 3 []).head?.any fun c => decide (c ∈ ['8', '9', 'a', 'b', 'A', 'B'])

/-- `text.includes(part)`. -/
def jsIncludes (part text : String) : Bool :=
  text.toList.tails.any fun rest => part.toList.isPrefixOf rest

end SmartErpPos.Lib

import ClassMatch.Text.Hidden

/-!
Quoted text: what cannot stand inside the quotes as it is becomes a backslash form, so that any
text fits on one line and two different texts never look alike.
-/
namespace ClassMatch.Text

/-- A code point as lower-case hexadecimal digits without padding. -/
def hexDigits (n : Nat) : String := String.ofList (Nat.toDigits 16 n)

/-- The form of a character between two `delimiter`s; the other kind of quote stays as it is. -/
def escape (delimiter c : Char) : String :=
  if c = delimiter ∨ c = '\\' then String.ofList ['\\', c]
  else if c = '\n' then "\\n"
  else if c = '\r' then "\\r"
  else if c = '\t' then "\\t"
  else if c = '\x00' then "\\0"
  else if isHidden c then "\\u\x7b" ++ hexDigits c.toNat ++ "\x7d"
  else c.toString

/-- The text between double quotes. -/
def quote (s : String) : String :=
  "\"" ++ String.join (s.toList.map (escape '"')) ++ "\""

/-- The character between single quotes. -/
def quoteChar (c : Char) : String := "'" ++ escape '\'' c ++ "'"

end ClassMatch.Text

import HermesAtrust.Text.Ascii
import HermesAtrust.Transport.Cookies

/-!
# Exporting the cookies of a session

`session_cookies` reads the `Cookie` header that the jar would send and makes a
cookie of each pair in it.  What a server may set is written with tokens and
cookie octets; the import is narrower than that in both parts of a pair.
-/

namespace HermesAtrust.Transport

open HermesAtrust.Framing HermesAtrust.Text

/-- ASCII without control characters and separators. -/
def isTokenChar (char : Char) : Bool :=
  (0x20 ≤ char.toNat && char.toNat < 0x7f) &&
    !"()<>@,;:\\\"/[]?=\x7b\x7d ".toList.contains char

/-- Visible ASCII without the quotation mark, the semicolon and the
backslash. -/
def isValueChar (char : Char) : Bool :=
  let code := char.toNat
  code == 0x21 || (0x23 ≤ code && code ≤ 0x3a) ||
    (0x3c ≤ code && code ≤ 0x5b) || (0x5d ≤ code && code ≤ 0x7e)

/-- A pair that a server may set. -/
structure CookiePair where
  name : Str
  value : Str
  nameNonempty : name ≠ []
  valueNonempty : value ≠ []
  isToken : ∀ char ∈ name, isTokenChar char = true
  isValue : ∀ char ∈ value, isValueChar char = true

def CookiePair.text (pair : CookiePair) : Str :=
  pair.name ++ '=' :: pair.value

namespace CookiePair

variable (pair : CookiePair)

end CookiePair

/-! ## The exported cookies -/

namespace CookieSample

def sid : CookiePair where
  name := "sid".toList
  value := "s1".toList
  nameNonempty := by decide
  valueNonempty := by decide
  isToken := List.all_eq_true.mp (by decide)
  isValue := List.all_eq_true.mp (by decide)

end CookieSample

end HermesAtrust.Transport

import ReviewDesk.Text.CodePoint
import ReviewDesk.Text.Search

set_option autoImplicit false

namespace ReviewDesk.Text

def isCommonBlank (c : Char) : Bool :=
  ('\t' ≤ c && c ≤ '\r') || c == ' ' || c == '\u00a0' || c == '\u1680' ||
  ('\u2000' ≤ c && c ≤ '\u200a') || c == '\u2028' || c == '\u2029' || c == '\u202f' ||
  c == '\u205f' || c == '\u3000'

def isBlank (c : Char) : Bool :=
  isCommonBlank c || ('\u001c' ≤ c && c ≤ '\u001f') || c == '\u0085'

/-- White space in the sense of the Unicode property, which leaves the information separators
out. -/
def isSpace (c : Char) : Bool := isCommonBlank c || c == '\u0085'

def isMargin (c : Char) : Bool := isCommonBlank c || c == '\ufeff'

def isAsciiBlank (c : Char) : Bool := ('\t' ≤ c && c ≤ '\r') || c == ' '

theorem le_iff_toNat (c d : Char) : c ≤ d ↔ c.toNat ≤ d.toNat := Iff.rfl

def strip (text : List Char) : List Char := trim isBlank text

def stripped (text : String) : String := String.ofList (strip text.toList)

def isAllBlank (text : List Char) : Bool := text.all isBlank

def CodePoints.stripped (text : CodePoints) : CodePoints := trim (·.satisfies isBlank) text

end ReviewDesk.Text

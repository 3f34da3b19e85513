import ReviewDesk.Text.CodePoint

set_option autoImplicit false

namespace ReviewDesk.Page

open Text

def escapeChar (c : Char) : List Char :=
  if c == '&' then "&amp;".toList
  else if c == '<' then "&lt;".toList
  else if c == '>' then "&gt;".toList
  else if c == '"' then "&quot;".toList
  else if c == '\'' then "&#x27;".toList
  else [c]

def escapePoint : CodePoint → CodePoints
  | .char c => .ofChars (escapeChar c)
  | .surrogate offset => [.surrogate offset]

def escape (text : CodePoints) : CodePoints := text.flatMap escapePoint

def isMarkup (c : Char) : Bool := c == '<' || c == '>' || c == '"' || c == '\''

theorem filter_isMarkup_escapeChar (c : Char) : (escapeChar c).filter isMarkup = [] := by
  unfold escapeChar
  split
  next => rfl
  next =>
    split
    next => rfl
    next =>
      split
      next => rfl
      next =>
        split
        next => rfl
        next =>
          split
          next => rfl
          next => simp_all [isMarkup]

theorem filter_isMarkup_escapePoint (point : CodePoint) :
    (escapePoint point).filter (·.satisfies isMarkup) = [] := by
  cases point with
  | char c =>
    simpa [escapePoint, CodePoints.ofChars, List.filter_map, Function.comp_def,
      CodePoint.satisfies] using filter_isMarkup_escapeChar c
  | surrogate offset => rfl

theorem filter_isMarkup_escape (text : CodePoints) :
    (escape text).filter (·.satisfies isMarkup) = [] := by
  induction text with
  | nil => rfl
  | cons point rest ih =>
    simp only [escape, List.flatMap_cons, List.filter_append, filter_isMarkup_escapePoint]
    simpa [escape] using ih

end ReviewDesk.Page

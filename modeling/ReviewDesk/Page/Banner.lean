import ReviewDesk.Page.Markup
import ReviewDesk.Status

set_option autoImplicit false

namespace ReviewDesk.Page

open Text

def bannerMessage (status : Status) : CodePoints :=
  if status.available then "AI analysis available (model: " ++ escape status.model ++ ")"
  else
    "AI unavailable: " ++ escape status.reason ++
      if status.keySet then "" else ". Rule-based analysis will be used."

def bannerClass (status : Status) : String :=
  if status.available then "available" else "unavailable"

def bannerIcon (status : Status) : String := if status.available then "✓" else "⚠"

def banner (status : Status) : CodePoints :=
  "<div class=\"ai-status " ++ bannerClass status ++ "\"><span class=\"ai-status-icon\">" ++
    bannerIcon status ++ "</span><span class=\"ai-status-text\">" ++ bannerMessage status ++
    "</span></div>"

end ReviewDesk.Page

import ReviewDesk.Language
import ReviewDesk.Page.Layout

set_option autoImplicit false

namespace ReviewDesk.Page

open Text

def languageOption (selected : String) (language : Language) : CodePoints :=
  "<option value=\"" ++ language.id ++ "\"" ++
    (if language.id = selected then " selected" else "") ++ ">" ++ escape language.label ++
    "</option>"

def languageOptions (selected : String) : CodePoints :=
  Language.offered.flatMap (languageOption selected)

def tagLevel (language : Language) : String :=
  if language.ruleSet = .general then "general" else "full"

def languageTag (language : Language) : CodePoints :=
  "<span class=\"language-tag language-tag-" ++ tagLevel language ++ "\">" ++
    escape language.label ++ "</span>"

def languageGrid : CodePoints :=
  "<div class=\"language-grid\" aria-label=\"Supported languages\">" ++
    Language.offered.flatMap languageTag ++ "</div>"

def errorBlock (error : String) : CodePoints :=
  if error = "" then "" else "<div class=\"form-error\">" ++ escape error ++ "</div>"

def formValues (error code language : String) : Values := [
  ("title", "Review"),
  ("error_block", errorBlock error),
  ("code_value", escape code),
  ("language_options", languageOptions language),
  ("languages_grid", languageGrid)]

def form (banner : CodePoints) (error code language : String) : Except FillFault CodePoints :=
  render formTemplate (formValues error code language) banner

end ReviewDesk.Page

import ReviewDesk.Page.Content
import ReviewDesk.Page.Markup
import ReviewDesk.Text.Search

set_option autoImplicit false

namespace ReviewDesk.Page

open Text

def assemble (title banner content : CodePoints) : CodePoints :=
  replaceAll (placeholder "content") content
    (replaceAll (placeholder "ai_status_banner") banner
      (replaceAll (placeholder "css") styleSheet
        (replaceAll (placeholder "title") title (source frameTemplate))))

def defaultTitle : CodePoints := "Code Review Assistant"

def pageTitle (values : Values) : CodePoints := escape ((values.lookup "title").getD defaultTitle)

def render (template : Template) (values : Values) (banner : CodePoints) :
    Except FillFault CodePoints :=
  (fill values template).map (assemble (pageTitle values) banner)

end ReviewDesk.Page

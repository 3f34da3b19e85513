import ReviewDesk.Text.CodePoint
import ReviewDesk.Text.Quoted

set_option autoImplicit false

namespace ReviewDesk.Page

open Text

/-- A slot may ask for a format, of which texts know none. -/
inductive Piece where
  | text (content : String)
  | slot (name : String)
  | formatted (name format : String)
deriving DecidableEq

abbrev Template := List Piece

abbrev Values := List (String × CodePoints)

inductive FillFault where
  | missing (name : String)
  | unknownFormat (format : String)
deriving DecidableEq

def FillFault.message : FillFault → String
  | missing name => quoted name
  | unknownFormat format =>
    "Invalid format specifier '" ++ format ++ "' for object of type 'str'"

def fill (values : Values) : Template → Except FillFault CodePoints
  | [] => .ok []
  | .text content :: rest => (fill values rest).map (content ++ ·)
  | .slot name :: rest =>
    match values.lookup name with
    | some value => (fill values rest).map (value ++ ·)
    | none => .error (.missing name)
  | .formatted name format :: _ =>
    match values.lookup name with
    | some _ => .error (.unknownFormat format)
    | none => .error (.missing name)

def placeholder (name : String) : CodePoints := "\x7b" ++ name ++ "\x7d"

def Piece.source : Piece → CodePoints
  | text content => content
  | slot name => placeholder name
  | formatted name format => placeholder (name ++ ":" ++ format)

def source (template : Template) : CodePoints := template.flatMap Piece.source

end ReviewDesk.Page

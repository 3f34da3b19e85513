import ReviewDesk.Page.Layout

set_option autoImplicit false

namespace ReviewDesk.Page

-- Not made to be filled: the braces of its first rule read as a slot with a format.
def styleTemplate : Template := [
  .text "body ",
  .formatted " font-family"
    " system-ui, sans-serif; max-width: 48rem; margin: 2rem auto; padding: 0 1rem; "]

namespace Folder

def home : List String := ["app", "templates"]

def file? : String → Option Template
  | "base.html" => some frameTemplate
  | "root.html" => some homeTemplate
  | "analyze.html" => some analyzeTemplate
  | "check.html" => some checkTemplate
  | "review_form.html" => some formTemplate
  | "review_results.html" => some resultsTemplate
  | "styles.css" => some styleTemplate
  | _ => none

def parts (name : String) : List String :=
  ((name.toList.splitOn '/').map String.ofList).filter fun part => part ≠ "" && part ≠ "."

def walk (place : List String) : List String → Option Template
  | [] => none
  | [name] => if place = home then file? name else none
  | part :: rest =>
    if part = ".." then if place.isEmpty then none else walk place.dropLast rest
    else if (place ++ [part]).isPrefixOf home then walk (place ++ [part]) rest
    else none

end Folder

inductive NameFault where
  | notFound
  | nul
deriving DecidableEq

def NameFault.message : NameFault → String
  | notFound => "not found"
  | nul => "embedded null byte"

def named (name : String) : Except NameFault Template :=
  if name.toList.contains '\x00' then .error .nul
  else if name.toList.head? = some '/' then .error .notFound
  else
    match Folder.walk Folder.home (Folder.parts name) with
    | some template => .ok template
    | none => .error .notFound

end ReviewDesk.Page

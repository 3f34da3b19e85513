import ReviewDesk.Json.Value
import ReviewDesk.Schema.Fault
import ReviewDesk.Text.Encoding
import ReviewDesk.Web.Percent

set_option autoImplicit false

namespace ReviewDesk.Web

open Text

inductive Body where
  | absent
  | json (value : Json)
  | raw (text : String)
  | form (fields : Pairs)

/-- A request as it is asked for. Parameters that are given replace the query of the address. -/
structure Request where
  origin : String
  method : String
  address : String
  parameters : Option Pairs
  body : Body

inductive Payload where
  | json (value : Json)
  | text (content : String)
  | faults (faults : List Fault)

structure Response where
  status : Nat
  contentType : Option String
  location : Option String
  disposition : Option String
  payload : Payload

namespace Response

def json (status : Nat) (value : Json) : Response :=
  ⟨status, some "application/json", none, none, .json value⟩

def detail (status : Nat) (message : CodePoints) : Response :=
  json status (.object [("detail", .text message)])

def html (content : CodePoints) : Except Charset.Fault Response :=
  (Charset.sendable content).map fun page =>
    ⟨200, some "text/html; charset=utf-8", none, none, .text page⟩

def redirect (status : Nat) (location : String) : Response :=
  ⟨status, none, some location, none, .text ""⟩

/-- A header value as it arrives: its bytes are read as UTF-8 where they can be. -/
def received (value : String) : String :=
  let bytes := value.toList.map fun c => UInt8.ofNat c.toNat
  (String.fromUTF8? ⟨bytes.toArray⟩).getD value

def invalid (faults : List Fault) : Response :=
  ⟨422, some "application/json", none, none,
    .faults (faults.map (Fault.within (.field "body")))⟩

def notFound : Response := detail 404 "Not Found"

def methodNotAllowed : Response := detail 405 "Method Not Allowed"

end Response

end ReviewDesk.Web

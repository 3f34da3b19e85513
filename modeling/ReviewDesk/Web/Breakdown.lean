import ReviewDesk.Download
import ReviewDesk.Page.Template
import ReviewDesk.Review
import ReviewDesk.Web.Address
import ReviewDesk.Web.Message

set_option autoImplicit false

namespace ReviewDesk.Web

open Text

inductive Breakdown where
  | address (fault : Address.Fault)
  | nonFinite
  | asking (failure : AskFailure)
  | download (failure : Download.Failure)
  | filling (fault : Page.FillFault)
  | writing (fault : Charset.Fault)
  | serializing (fault : Charset.Fault)
deriving DecidableEq

namespace Breakdown

def message : Breakdown → CodePoints
  | address fault => fault.message
  | nonFinite => "Out of range float values are not JSON compliant"
  | asking failure => failure.message
  | download failure => failure.message
  | filling fault => fault.message
  | writing fault => fault.message
  | serializing fault => "Error serializing to JSON: UnicodeEncodeError: " ++ fault.message

end Breakdown

abbrev Answer := Except Breakdown Response

end ReviewDesk.Web

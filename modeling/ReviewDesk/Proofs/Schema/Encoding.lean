import ReviewDesk.Proofs.Json.RoundTrip
import ReviewDesk.Schema.Assessment

set_option autoImplicit false

namespace ReviewDesk

open Text

theorem Json.rereadText_of_unpaired {ascii : Bool} {text : CodePoints}
    (legible : ascii = true → CodePoints.Unpaired text) : Json.rereadText ascii text = text := by
  unfold Json.rereadText
  split
  next escaped => exact CodePoints.rejoined_of_unpaired (legible escaped)
  next => rfl

@[simp] theorem Json.rereadText_ofString (ascii : Bool) (text : String) :
    Json.rereadText ascii (.ofString text) = .ofString text :=
  Json.rereadText_of_unpaired fun _ => CodePoints.unpaired_ofChars text.toList

theorem Json.asLiteral_name {α : Type} {ofName? : String → Option α} {name : String} {value : α}
    (named : ofName? name = some value) :
    Json.asLiteral ofName? (.text (.ofString name)) = .ok value := by
  simp [Json.asLiteral, named]

namespace Issue

theorem asOptionalInt_lineJson (issue : Issue) :
    Json.asOptionalInt issue.lineJson = .ok issue.line := by
  unfold lineJson
  cases issue.line <;> rfl

@[simp] theorem ofJson_toJson (issue : Issue) : ofJson issue.toJson = .ok issue := by
  have kind := Json.asLiteral_name (Kind.ofName?_name issue.kind)
  have severity := Json.asLiteral_name (Severity.ofName?_name issue.severity)
  simp [ofJson, toJson, Json.asRecord, ofMembers, Json.required, Json.optional, Json.member?,
    List.lookup_cons, kind, severity, asOptionalInt_lineJson, Json.asText, Checked.both, Checked.within,
    Except.mapError]

def reread (ascii : Bool) (issue : Issue) : Issue :=
  { issue with
    title := Json.rereadText ascii issue.title
    description := Json.rereadText ascii issue.description }

theorem reread_toJson (ascii : Bool) (issue : Issue) :
    Json.reread ascii issue.toJson = (issue.reread ascii).toJson := by
  have line : Json.reread ascii issue.lineJson = (issue.reread ascii).lineJson := by
    unfold lineJson reread
    cases issue.line <;> rfl
  simp [toJson, Json.reread, Json.rereadMembers, Json.ofMembers, Json.put, line]
  simp [reread]

end Issue

end ReviewDesk

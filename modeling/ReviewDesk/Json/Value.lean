import ReviewDesk.Number.Double
import ReviewDesk.Text.CodePoint

set_option autoImplicit false

namespace ReviewDesk

open Text

inductive Json where
  | null
  | bool (value : Bool)
  | int (value : Int)
  | real (value : Number.Double)
  | text (value : CodePoints)
  | list (items : List Json)
  | object (members : List (CodePoints × Json))

namespace Json

def isControl (c : Char) : Bool := c < ' '

abbrev Members := List (CodePoints × Json)

def member? (members : Members) (name : CodePoints) : Option Json := members.lookup name

def put (name : CodePoints) (value : Json) : Members → Members
  | [] => [(name, value)]
  | member :: rest =>
    if member.1 = name then (name, value) :: rest else member :: put name value rest

theorem member?_put (name key : CodePoints) (value : Json) (members : Members) :
    member? (put name value members) key =
      if key = name then some value else member? members key := by
  unfold member?
  induction members with
  | nil =>
    by_cases same : key = name
    next => simp [put, same]
    next => simp [put, List.lookup_cons, same, beq_eq_false_iff_ne.mpr same]
  | cons member rest ih =>
    obtain ⟨first, held⟩ := member
    by_cases here : first = name
    next =>
      by_cases same : key = name
      next => simp [put, here, same]
      next => simp [put, List.lookup_cons, here, same, beq_eq_false_iff_ne.mpr same]
    next =>
      by_cases found : key = first
      next => simp [put, here, found]
      next => simp [put, List.lookup_cons, here, ih, beq_eq_false_iff_ne.mpr found]

def ofMembers (members : Members) : Json :=
  .object (members.foldl (fun kept member => put member.1 member.2 kept) [])

mutual

def isFinite : Json → Bool
  | .real x => x.value?.isSome
  | .list items => areFinite items
  | .object members => haveFinite members
  | _ => true

def areFinite : List Json → Bool
  | [] => true
  | item :: rest => item.isFinite && areFinite rest

def haveFinite : Members → Bool
  | [] => true
  | (_, value) :: rest => value.isFinite && haveFinite rest

end

end Json

end ReviewDesk

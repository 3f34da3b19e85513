import ReviewDesk.Proofs.Shelf.Numbering
import ReviewDesk.Web.Route

set_option autoImplicit false

namespace ReviewDesk.Web

open Text

structure Visit where
  around : Circumstances
  request : Request

structure Request.Asks (request : Request) (method : String) (route : Route) (target : Target) :
    Prop where
  resolved : Target.resolve request.origin request.address request.parameters = .ok target
  routed : routeOf? target.path = some route
  spelled : String.ofList (upper request.method.toList) = method
  writable : request.body.isWritable = true

def Visit.Reviews (visit : Visit) (language : String) (result : Assessment) : Prop :=
  ∃ target entry, visit.request.Asks "POST" .review target ∧
    formEntry visit.request.body = .ok entry ∧ isBlankText entry.code = false ∧
    stripped entry.language = language ∧
    (assess visit.around.settings visit.around.provider entry.code language
      entry.useAI).result = .ok result

namespace Desk

def answer (desk : Desk) (visit : Visit) : Answer := (desk.handle visit.around visit.request).1

def after (desk : Desk) (visits : List Visit) : Desk :=
  visits.foldl (fun desk visit => (desk.handle visit.around visit.request).2) desk

theorem after_cons (desk : Desk) (visit : Visit) (visits : List Visit) :
    desk.after (visit :: visits) =
      (desk.handle visit.around visit.request).2.after visits := rfl

theorem after_append (desk : Desk) (visits others : List Visit) :
    desk.after (visits ++ others) = (desk.after visits).after others := List.foldl_append

def Shelved (shelf next : Shelf) (now : Reading) : Prop :=
  next = shelf ∨ ∃ language result, next = (shelf.store language result now).2

variable {desk next : Desk} {around : Circumstances} {request : Request} {route : Route}
  {target : Target}

theorem handle_get (asked : request.Asks "GET" route target) :
    desk.handle around request = route.get desk around (.decode target.query) := by
  simp [handle, handleAt, asked.resolved, asked.writable, asked.routed, asked.spelled]

theorem handle_post (asked : request.Asks "POST" route target) :
    desk.handle around request = route.post desk around request.body := by
  simp [handle, handleAt, asked.resolved, asked.writable, asked.routed, asked.spelled]

theorem shelf_shelve (language : String) (result : Assessment) :
    (desk.shelve around language result).2.shelf =
      (desk.shelf.store language result around.now).2 := rfl

theorem postReview_of_assessed {body : Body} {entry : FormEntry} {result : Assessment}
    (read : formEntry body = .ok entry) (filled : isBlankText entry.code = false)
    (assessed : (assess around.settings around.provider entry.code (stripped entry.language)
      entry.useAI).result = .ok result) :
    desk.postReview around body = desk.shelve around (stripped entry.language) result := by
  simp [postReview, read, filled, assessed]

def Looked (desk next : Desk) (around : Circumstances) : Prop :=
  next = desk ∨ next = (desk.currentStatus around).2

theorem Looked.shelf (looked : Looked desk next around) : next.shelf = desk.shelf := by
  rcases looked with rfl | rfl <;> rfl

theorem looked_page (content : CodePoints → Except Page.FillFault CodePoints) :
    Looked desk (desk.page around content).2 around := .inr rfl

theorem looked_postCheck (body : Body) : Looked desk (desk.postCheck body).2 around := by
  unfold postCheck
  split <;> exact .inl rfl

theorem looked_postAnalyze (body : Body) : Looked desk (desk.postAnalyze around body).2 around := by
  unfold postAnalyze
  split
  next => exact .inl rfl
  next => split <;> exact .inl rfl

theorem looked_download (query : Pairs) : Looked desk (desk.download around query).2 around := by
  unfold download
  split
  next => exact .inl rfl
  next => split <;> exact .inl rfl

theorem looked_postReview (desk : Desk) (around : Circumstances) (body : Body) :
    Looked desk (desk.postReview around body).2 around ∨
      ∃ entry result, formEntry body = .ok entry ∧ isBlankText entry.code = false ∧
        (assess around.settings around.provider entry.code (stripped entry.language)
          entry.useAI).result = .ok result := by
  unfold postReview
  cases read : formEntry body with
  | error response => exact .inl (.inl rfl)
  | ok entry =>
    cases filled : isBlankText entry.code with
    | true =>
      simp only [filled, if_true]
      exact .inl (looked_page _)
    | false =>
      cases assessed : (assess around.settings around.provider entry.code
          (stripped entry.language) entry.useAI).result with
      | error failure => simp [Looked, filled, assessed]
      | ok result => exact .inr ⟨entry, result, rfl, filled, assessed⟩

theorem looked_get (route : Route) (query : Pairs) :
    Looked desk (route.get desk around query).2 around := by
  cases route with
  | home | check | analyze | review => exact looked_page _
  | download => exact looked_download query
  | status => exact .inr rfl
  | health | languages => exact .inl rfl

theorem looked_post (body : Body) (other : route ≠ .review) :
    Looked desk (route.post desk around body).2 around := by
  cases route with
  | check => exact looked_postCheck body
  | analyze => exact looked_postAnalyze body
  | review => exact absurd rfl other
  | _ => exact .inl rfl

theorem looked_handle (desk : Desk) (around : Circumstances) (request : Request) :
    Looked desk (desk.handle around request).2 around ∨
      ∃ target, request.Asks "POST" .review target := by
  unfold handle
  cases resolved : Target.resolve request.origin request.address request.parameters with
  | error fault => exact .inl (.inl rfl)
  | ok target =>
    by_cases writable : request.body.isWritable = true
    next =>
      simp only [writable, if_true]
      unfold handleAt
      cases routed : routeOf? target.path with
      | none => exact .inl (.inl rfl)
      | some route =>
        simp only
        split_ifs with read posted
        next => exact .inl (looked_get route _)
        next =>
          by_cases review : route = .review
          next =>
            rw [review] at routed
            exact .inr ⟨target, resolved, routed, posted, writable⟩
          next => exact .inl (looked_post _ review)
        next => exact .inl (.inl rfl)
    next =>
      simp only [writable]
      exact .inl (.inl rfl)

variable {visit : Visit} {language : String} {result : Assessment}

theorem handle_of_reviews (desk : Desk) (reviews : visit.Reviews language result) :
    desk.handle visit.around visit.request = desk.shelve visit.around language result := by
  obtain ⟨target, entry, asked, read, filled, rfl, assessed⟩ := reviews
  exact (handle_post asked).trans (postReview_of_assessed read filled assessed)

theorem looked_or_reviews (desk : Desk) (visit : Visit) :
    Looked desk (desk.handle visit.around visit.request).2 visit.around ∨
      ∃ language result, visit.Reviews language result := by
  rcases looked_handle desk visit.around visit.request with looked | ⟨target, asked⟩
  next => exact .inl looked
  next =>
    rw [handle_post asked, Route.post]
    rcases looked_postReview desk visit.around visit.request.body with
      looked | ⟨entry, result, read, filled, assessed⟩
    next => exact .inl looked
    next => exact .inr ⟨_, result, target, entry, asked, read, filled, rfl, assessed⟩

theorem shelf_handle_of_idle (desk : Desk)
    (idle : ¬ ∃ language result, visit.Reviews language result) :
    (desk.handle visit.around visit.request).2.shelf = desk.shelf :=
  ((looked_or_reviews desk visit).resolve_right idle).shelf

theorem shelved_handle (desk : Desk) (visit : Visit) :
    Shelved desk.shelf (desk.handle visit.around visit.request).2.shelf visit.around.now := by
  by_cases busy : ∃ language result, visit.Reviews language result
  next =>
    obtain ⟨language, result, reviews⟩ := busy
    rw [handle_of_reviews desk reviews]
    exact .inr ⟨language, result, shelf_shelve language result⟩
  next => exact .inl (shelf_handle_of_idle desk busy)

theorem shelf_after {p : Shelf → Prop} {visits : List Visit}
    (kept : ∀ visit ∈ visits, ∀ shelf language result, p shelf →
      p (shelf.store language result visit.around.now).2)
    (start : p desk.shelf) : p (desk.after visits).shelf := by
  -- The first visit leaves the shelf alone or stores; the others start from what it leaves.
  induction visits generalizing desk with
  | nil => exact start
  | cons visit rest ih =>
    obtain ⟨first, others⟩ := List.forall_mem_cons.mp kept
    rw [after_cons]
    apply ih others
    rcases shelved_handle desk visit with
      same | ⟨language, result, stored⟩
    next => rwa [same]
    next =>
      rw [stored]
      exact first desk.shelf language result start

theorem numbered_after (visits : List Visit) (start : desk.shelf.Numbered) :
    (desk.after visits).shelf.Numbered :=
  shelf_after (fun visit _ _ language result numbered =>
    numbered.store language result visit.around.now) start

theorem mem_after {id : String} {report : ShelvedReport} {visits : List Visit}
    (fresh : ∀ visit ∈ visits, Shelf.isExpired report visit.around.now = false)
    (shelved : (id, report) ∈ desk.shelf.reports) :
    (id, report) ∈ (desk.after visits).shelf.reports :=
  shelf_after (p := fun shelf => (id, report) ∈ shelf.reports)
    (fun visit member _ _ _ held => Shelf.mem_store_of_mem held (fresh visit member)) shelved

end Desk

end ReviewDesk.Web

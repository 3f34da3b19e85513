import ReviewDesk.Proofs.Web.Download

set_option autoImplicit false

namespace ReviewDesk.Web

open Text

theorem Response.status_html {content : CodePoints} {page : Response}
    (sent : html content = .ok page) : page.status = 200 := by
  unfold html at sent
  cases encoded : Charset.sendable content with
  | error fault => simp [encoded, Except.map] at sent
  | ok text =>
    rw [encoded] at sent
    cases sent
    rfl

namespace Desk

variable (desk : Desk) (around : Circumstances)

def Sendable (result : Assessment) (status : Status) : Prop :=
  (∀ text ∈ writtenTexts result, IsWhole text) ∧
    (status.available = true ∨ IsWhole status.reason)

theorem answer_shelve (language : String) (result : Assessment) :
    (Sendable result (desk.currentStatus around).1 ∧
        ∃ page, (desk.shelve around language result).1 = .ok page ∧ page.status = 200) ∨
      ¬ Sendable result (desk.currentStatus around).1 ∧
        ∃ fault, (desk.shelve around language result).1 = .error (.writing fault) := by
  let status := (desk.currentStatus around).1
  let id := Shelf.reportId (desk.shelf.issued + 1)
  obtain ⟨content, filled⟩ := Page.fill_results language result id
  have laid := Page.results_of_fill filled (Page.banner status)
  have sent_iff := Page.results_sent_iff status language result id
  have answered : (desk.shelve around language result).1 =
      pageAnswer (Page.results (Page.banner status) language result id) := by
    rw [shelve, Shelf.store, Shelf.storeAs, page_fst, currentStatus_shelf]
  generalize Page.framed _ _ content = page at laid
  rw [answered, laid, pageAnswer]
  cases sent : Response.html page with
  | ok response =>
    exact .inl ⟨sent_iff.mp ⟨_, _, laid, sent⟩, response, rfl, Response.status_html sent⟩
  | error fault =>
    refine .inr ⟨?_, fault, rfl⟩
    intro whole
    obtain ⟨other, response, laid', sent'⟩ := sent_iff.mpr whole
    obtain rfl := Except.ok.inj (laid.symm.trans laid')
    cases sent.symm.trans sent'

end Desk

theorem shelf_changes (history : List Visit) (visit : Visit) :
    let desk := Desk.empty.after history
    let next := Desk.empty.after (history ++ [visit])
    let status := (desk.currentStatus visit.around).1
    ((¬ ∃ language result, visit.Reviews language result) → next.shelf = desk.shelf) ∧
    (∀ language result, visit.Reviews language result →
      let now := visit.around.now
      let id := Shelf.reportId (desk.shelf.issued + 1)
      id ∉ desk.shelf.ids ∧ next.shelf.issued = desk.shelf.issued + 1 ∧
      next.shelf.reports = desk.shelf.reports.filter
          (fun entry => !(now.since entry.2.storedAt).atLeast 300) ++
        [(id, ⟨language, result, now⟩)] ∧
      (Desk.Sendable result status →
        ∃ page, desk.answer visit = .ok page ∧ page.status = 200) ∧
      (¬ Desk.Sendable result status →
        ∃ fault, desk.answer visit = .error (.writing fault))) ∧
    ((∀ other ∈ history ++ [visit], other.around.provider.IsLegible) → IsWhole status.reason) := by
  intro desk next status
  have stepped : next.shelf = (desk.handle visit.around visit.request).2.shelf := by
    rw [show next = desk.after [visit] from Desk.after_append _ _ _]
    rfl
  refine ⟨?_, ?_, Desk.isWhole_reason⟩
  next =>
    intro idle
    rw [stepped, Desk.shelf_handle_of_idle desk idle]
  next =>
    intro language result reviews now id
    have numbered : desk.shelf.Numbered := Desk.numbered_after _ Shelf.numbered_empty
    have handled := Desk.handle_of_reviews desk reviews
    have shelved : next.shelf = (desk.shelf.store language result now).2 := by
      rw [stepped, handled, Desk.shelf_shelve]
    have answered : desk.answer visit = (desk.shelve visit.around language result).1 :=
      congrArg Prod.fst handled
    refine ⟨numbered.next_not_mem, congrArg Shelf.issued shelved,
      congrArg Shelf.reports shelved, ?_⟩
    rw [answered]
    rcases desk.answer_shelve visit.around language result with ⟨whole, shown⟩ | ⟨torn, failed⟩
    next => exact ⟨fun _ => shown, fun torn => absurd whole torn⟩
    next => exact ⟨fun whole => absurd whole torn, fun _ => failed⟩

theorem posting_reviews (language : String) (now : Reading)
    (read : formEntry (posting language now).request.body = .ok ⟨"x = 1", language, false⟩) :
    (posting language now).Reviews (stripped language)
      (Heuristic.assess "x = 1" (stripped language) Heuristic.defaultExplanation) := by
  have filled : isBlankText "x = 1" = false := by decide +kernel
  exact ⟨postingTarget, _, posting_asks language now, read, filled, rfl, rfl⟩

theorem older_report_replaced :
    let result := Heuristic.assess "x = 1" "Go" Heuristic.defaultExplanation
    let history := [posting "python" (.exact 0)]
    let visit := posting " Go " (.exact 300)
    visit.Reviews "Go" result ∧
      (Desk.empty.after (history ++ [visit])).shelf =
        ⟨2, [(Shelf.reportId 2, ⟨"Go", result, .exact 300⟩)]⟩ ∧
      (∃ page, (Desk.empty.after history).answer visit = .ok page ∧ page.status = 200) ∧
      (Desk.empty.after (history ++ [fetching (.exact 300)])).shelf =
        (Desk.empty.after history).shelf := by
  intro result history visit
  have language : stripped " Go " = "Go" := by decide +kernel
  have reviews : visit.Reviews "Go" result := by
    have posted := posting_reviews " Go " (.exact 300) rfl
    rwa [language] at posted
  have older := posting_reviews "python" (.exact 0) rfl
  obtain ⟨-, first, -⟩ := shelf_changes [] (posting "python" (.exact 0))
  obtain ⟨-, second, legible⟩ := shelf_changes history visit
  obtain ⟨-, issued, held, -⟩ := first _ _ older
  obtain ⟨-, issued', held', shown, -⟩ := second _ _ reviews
  have told := legible
    (List.forall_mem_cons.mpr ⟨trivial, List.forall_mem_singleton.mpr trivial⟩)
  have idle : ¬ ∃ language result, (fetching (.exact 300)).Reviews language result := by
    rintro ⟨language, result, target, entry, asked, -⟩
    have fetched := (fetching_asks (.exact 300)).spelled
    exact absurd (fetched.symm.trans asked.spelled) (by decide)
  refine ⟨reviews, ?_, shown ⟨isWhole_heuristic _ _ _, .inr told⟩, (shelf_changes history _).1 idle⟩
  have single : (Desk.empty.after history).shelf.issued = 1 := issued
  have alone : (Desk.empty.after history).shelf.reports =
      [(Shelf.reportId 1, ⟨stripped "python", _, .exact 0⟩)] := held
  have expired : ((Reading.exact 300).since (.exact 0)).atLeast 300 = true := by decide +kernel
  have cleared : (Desk.empty.after history).shelf.reports.filter
      (fun entry => !(visit.around.now.since entry.2.storedAt).atLeast 300) = [] := by
    rw [alone]
    simpa [visit, posting] using expired
  rw [cleared, single] at held'
  rw [single] at issued'
  exact congrArg₂ Shelf.mk issued' held'

def garbled : Visit :=
  ⟨⟨{ Settings.unset with apiKey := some "sk-test-key-123456" },
      .replies (some "\x7b\"explanation\": \"\\ud800\"\x7d"), .exact 0⟩,
    ⟨"http://testserver", "POST", "/review", none,
      .form [("code", "x = 1"), ("language", "python"), ("use_ai", "true")]⟩⟩

def tornResult : Assessment := .ofIssues [] 50 [.surrogate 0] .ai

theorem garbled_reviews : garbled.Reviews "python" tornResult := by
  refine ⟨postingTarget, ⟨"x = 1", "python", true⟩, ⟨?_, ?_, ?_, rfl⟩, rfl, ?_, ?_, ?_⟩
  all_goals decide +kernel

theorem torn_result_unsent :
    garbled.Reviews "python" tornResult ∧
      (∃ fault, Desk.empty.answer garbled = .error (.writing fault)) ∧
      (Desk.empty.after [garbled]).shelf =
        ⟨1, [(Shelf.reportId 1, ⟨"python", tornResult, .exact 0⟩)]⟩ := by
  have handled := Desk.handle_of_reviews Desk.empty garbled_reviews
  have torn (status : Status) : ¬ Desk.Sendable tornResult status := by
    rw [Desk.Sendable, isWhole_written]
    exact fun ⟨whole, _⟩ => Bool.false_ne_true (whole.1 (.surrogate 0) List.mem_cons_self)
  refine ⟨garbled_reviews, ?_, ?_⟩
  next =>
    rw [Desk.answer, handled]
    rcases Desk.empty.answer_shelve garbled.around "python" tornResult with
      ⟨whole, -⟩ | ⟨-, failed⟩
    next => exact absurd whole (torn _)
    next => exact failed
  next =>
    rw [Desk.after_cons, handled]
    rfl

end ReviewDesk.Web

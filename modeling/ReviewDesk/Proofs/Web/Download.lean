import ReviewDesk.Proofs.Web.Reasons

set_option autoImplicit false

namespace ReviewDesk

open Text

namespace Download

def IsNamable (language : String) : Prop :=
  ∀ c ∈ (strip language.toList).take nameLimit, isNameChar c = true → c.toNat < 256

instance (language : String) : Decidable (IsNamable language) := List.decidableBAll _ _

theorem safeName_iff (language : String) :
    (∀ c ∈ safeName language, c.toNat < 256) ↔ IsNamable language := by
  have underscore (c : Char) (same : (c == '_') = true) : c.toNat < 256 := by
    rw [eq_of_beq same]
    decide
  rw [safeName, forall_mem_trim underscore, ← List.map_take, List.forall_mem_map]
  refine forall₂_congr fun c _ => ?_
  split
  next named => simp [named]
  next other => simp [other]

theorem baseName_iff (language : String) :
    (∀ c ∈ (baseName language).toList, c.toNat < 256) ↔ IsNamable language := by
  rw [← safeName_iff]
  unfold baseName
  split
  next none =>
    rw [none]
    exact iff_of_true (forall_mem_literal rfl (by simp)) (List.forall_mem_nil _)
  next =>
    rw [String.toList_append, List.forall_mem_append, String.toList_ofList]
    exact and_iff_left (forall_mem_literal rfl (by simp))

theorem disposition_iff (language : String) :
    (∀ c ∈ (disposition language).toList, c.toNat < 256) ↔ IsNamable language := by
  rw [← baseName_iff]
  exact forall_mem_between _ (forall_mem_literal rfl (by simp)) (forall_mem_literal rfl (by simp))

theorem fault?_disposition (language : String) :
    Charset.latin1.fault? (disposition language) = none ↔ IsNamable language := by
  rw [Charset.fault?_eq_none_iff, ← disposition_iff, CodePoints.ofString, CodePoints.ofChars,
    List.forall_mem_map]
  exact forall₂_congr fun c _ => decide_eq_true_iff

theorem attachment_of_whole (language : String) {result : Assessment} {now : Reading}
    {written : Stamp} (dated : Stamp.ofReading now = .ok written)
    (whole : ∀ text ∈ Web.Desk.writtenTexts result, IsWhole text) :
    ∃ body, CodePoints.ofString body = Markdown.report language result written ∧
      attachment language result now =
        match Charset.latin1.fault? (disposition language) with
        | none => .ok ⟨"text/markdown; charset=utf-8", disposition language, body⟩
        | some fault => .error (.charset fault) := by
  obtain ⟨body, sent⟩ := (sendable_iff _).mpr
    ((Markdown.isWhole_report language result written).mpr whole)
  refine ⟨body, Charset.ofString_of_sendable sent, ?_⟩
  rw [attachment, dated]
  simp only [sent]
  cases Charset.latin1.fault? (disposition language) <;> rfl

end Download

namespace Shelf

theorem reportId_ne_empty (n : Nat) : reportId n ≠ "" := by
  intro empty
  have digits : hex 32 n = [] := by simpa [reportId] using congrArg String.toList empty
  exact Nat.toDigits_ne_nil (List.append_eq_nil_iff.mp digits).2

theorem Numbered.ne_empty {shelf : Shelf} (numbered : shelf.Numbered) {id : String}
    {report : ShelvedReport} (shelved : (id, report) ∈ shelf.reports) : id ≠ "" := by
  obtain ⟨n, -, rfl⟩ := numbered.issued id (List.mem_map_of_mem (f := (·.1)) shelved)
  exact reportId_ne_empty n

end Shelf

namespace Web

namespace Desk

variable {desk : Desk} {around : Circumstances} {request : Request} {route : Route}
  {target : Target}

theorem answer_download {visit : Visit} (asked : visit.request.Asks "GET" .download target) :
    desk.answer visit = (desk.download visit.around (.decode target.query)).1 := by
  rw [answer, handle_get asked, Route.get]

theorem answer_postReview {visit : Visit} (asked : visit.request.Asks "POST" .review target) :
    desk.answer visit = (desk.postReview visit.around visit.request.body).1 := by
  rw [answer, handle_post asked, Route.post]

theorem assessed_of_shown {body : Body} {entry : FormEntry} {page : Response}
    (read : formEntry body = .ok entry) (filled : isBlankText entry.code = false)
    (shown : (desk.postReview around body).1 = .ok page) :
    ∃ result, (assess around.settings around.provider entry.code (stripped entry.language)
      entry.useAI).result = .ok result := by
  cases assessed : (assess around.settings around.provider entry.code (stripped entry.language)
      entry.useAI).result with
  | ok result => exact ⟨result, rfl⟩
  | error failure => simp [postReview, read, filled, assessed] at shown

theorem page_fst (content : CodePoints → Except Page.FillFault CodePoints) :
    (desk.page around content).1 =
      pageAnswer (content (Page.banner (desk.currentStatus around).1)) := rfl

theorem currentStatus_shelf (shelf : Shelf) :
    (({ desk with shelf := shelf } : Desk).currentStatus around).1 =
      (desk.currentStatus around).1 := rfl

theorem shelve_shown {language : String} {result : Assessment} {page : Response} :
    (desk.shelve around language result).1 = .ok page ↔
      ∃ content, Page.results (Page.banner (desk.currentStatus around).1) language result
          (Shelf.reportId (desk.shelf.issued + 1)) = .ok content ∧
        Response.html content = .ok page := by
  rw [shelve, Shelf.store, Shelf.storeAs, page_fst, currentStatus_shelf]
  cases Page.results (Page.banner (desk.currentStatus around).1) language result
      (Shelf.reportId (desk.shelf.issued + 1)) with
  | error fault => simp [pageAnswer]
  | ok content =>
    simp only [pageAnswer, Except.ok.injEq, exists_eq_left']
    cases Response.html content <;> simp [Except.mapError]

theorem download_of_live {query : Pairs} {id : String} {report : ShelvedReport}
    (asked : stripped ((query.get? "report_id").getD "") = id) (given : id ≠ "")
    (live : desk.shelf.live? id around.now = some report) :
    (desk.download around query).1 =
      ((Download.attachment report.language report.result around.now).map
        attachmentResponse).mapError .download := by
  unfold download
  rw [asked]
  split
  next => exact absurd rfl given
  next => rw [live]

theorem download_shelved {query : Pairs} {id : String} {report : ShelvedReport}
    (numbered : desk.shelf.Numbered) (shelved : (id, report) ∈ desk.shelf.reports)
    (fresh : Shelf.isExpired report around.now = false)
    (asked : stripped ((query.get? "report_id").getD "") = id) :
    (desk.download around query).1 =
      ((Download.attachment report.language report.result around.now).map
        attachmentResponse).mapError .download :=
  download_of_live asked (numbered.ne_empty shelved)
    ((Shelf.live?_eq_some_iff _ numbered.distinct id report around.now).mpr ⟨shelved, fresh⟩)

end Desk

section Recent

variable {post get : Visit} {posted fetched : Target}
  {entry : FormEntry} {result : Assessment}

theorem shown_of_whole (desk : Desk) (asked : post.request.Asks "POST" .review posted)
    (read : formEntry post.request.body = .ok entry) (filled : isBlankText entry.code = false)
    (assessed : (assess post.around.settings post.around.provider entry.code
      (stripped entry.language) entry.useAI).result = .ok result)
    (whole : ∀ text ∈ Desk.writtenTexts result, IsWhole text)
    (told : IsWhole (desk.currentStatus post.around).1.reason) :
    ∃ status content page, Page.results (Page.banner status) (stripped entry.language) result
        (Shelf.reportId (desk.shelf.issued + 1)) = .ok content ∧
      Response.html content = .ok page ∧ desk.answer post = .ok page := by
  obtain ⟨content, page, laid, sent⟩ := (Page.results_sent_iff
    (desk.currentStatus post.around).1 (stripped entry.language) result
    (Shelf.reportId (desk.shelf.issued + 1))).mpr ⟨whole, .inr told⟩
  refine ⟨_, content, page, laid, sent, ?_⟩
  rw [Desk.answer_postReview asked, Desk.postReview_of_assessed read filled assessed,
    Desk.shelve_shown]
  exact ⟨content, laid, sent⟩

theorem answer_of_recent (history between : List Visit)
    (asked : post.request.Asks "POST" .review posted)
    (read : formEntry post.request.body = .ok entry) (filled : isBlankText entry.code = false)
    (assessed : (assess post.around.settings post.around.provider entry.code
      (stripped entry.language) entry.useAI).result = .ok result)
    (asked' : get.request.Asks "GET" .download fetched)
    (named : stripped (((Pairs.decode fetched.query).get? "report_id").getD "") =
      Shelf.reportId ((Desk.empty.after history).shelf.issued + 1))
    (later : post.around.now.NotAfter get.around.now)
    (before : ∀ visit ∈ between, visit.around.now.NotAfter get.around.now)
    (recent : (get.around.now.since post.around.now).lessThan 300 = true) :
    (Desk.empty.after (history ++ post :: between)).answer get =
      ((Download.attachment (stripped entry.language) result get.around.now).map
        Desk.attachmentResponse).mapError .download := by
  let desk := Desk.empty.after history
  let last := Desk.empty.after (history ++ post :: between)
  let report : ShelvedReport := ⟨stripped entry.language, result, post.around.now⟩
  have numbered : last.shelf.Numbered := Desk.numbered_after _ Shelf.numbered_empty
  have fresh (now : Reading) (ordered : now.NotAfter get.around.now) :
      Shelf.isExpired report now = false :=
    Shelf.isExpired_of_recent later ordered recent
  have handled : desk.handle post.around post.request =
      desk.shelve post.around (stripped entry.language) result :=
    (Desk.handle_post asked).trans (Desk.postReview_of_assessed read filled assessed)
  -- Whatever was asked in between, no request found the report expired.
  have shelved : (Shelf.reportId (desk.shelf.issued + 1), report) ∈ last.shelf.reports := by
    have split : last = (desk.handle post.around post.request).2.after between := by
      rw [← Desk.after_cons, ← Desk.after_append]
    rw [split]
    apply Desk.mem_after fun visit member => fresh _ (before visit member)
    rw [handled, Desk.shelf_shelve]
    exact Shelf.mem_store desk.shelf _ result post.around.now
  rw [Desk.answer_download asked',
    Desk.download_shelved numbered shelved (fresh _ later.last) named]

end Recent

theorem download_of_shown (history : List Visit) {post : Visit} {posted : Target}
    {entry : FormEntry} {page : Response} (asked : post.request.Asks "POST" .review posted)
    (read : formEntry post.request.body = .ok entry) (filled : isBlankText entry.code = false)
    (shown : (Desk.empty.after history).answer post = .ok page) :
    let language := stripped entry.language
    let id := Shelf.reportId ((Desk.empty.after history).shelf.issued + 1)
    ∃ result status content,
      (assess post.around.settings post.around.provider entry.code language
        entry.useAI).result = .ok result ∧
      Page.results (Page.banner status) language result id = .ok content ∧
      Response.html content = .ok page ∧
      ∀ (between : List Visit) {get : Visit} {fetched : Target},
        get.request.Asks "GET" .download fetched →
        stripped (((Pairs.decode fetched.query).get? "report_id").getD "") = id →
        post.around.now.NotAfter get.around.now →
        (∀ visit ∈ between, visit.around.now.NotAfter get.around.now) →
        (get.around.now.since post.around.now).lessThan 300 = true →
          let answer := (Desk.empty.after (history ++ post :: between)).answer get
          match Stamp.ofReading get.around.now with
          | .error fault => answer = .error (.download (.stamp fault))
          | .ok written =>
            ∃ body, CodePoints.ofString body = Markdown.report language result written ∧
              (Download.IsNamable language →
                answer = .ok ⟨200, some "text/markdown; charset=utf-8", none,
                  some (Response.received (Download.disposition language)), .text body⟩) ∧
              (¬ Download.IsNamable language →
                ∃ fault, answer = .error (.download (.charset fault))) := by
  intro language id
  let desk := Desk.empty.after history
  rw [Desk.answer_postReview asked] at shown
  obtain ⟨result, assessed⟩ := Desk.assessed_of_shown read filled shown
  rw [Desk.postReview_of_assessed read filled assessed, Desk.shelve_shown] at shown
  obtain ⟨content, laid, sent⟩ := shown
  -- The page was sent, so the result has no surrogate, and neither has its report.
  obtain ⟨whole, -⟩ := (Page.results_sent_iff _ _ _ _).mp ⟨content, page, laid, sent⟩
  refine ⟨result, _, content, assessed, laid, sent, ?_⟩
  intro between get fetched asked' named later before recent answer
  have attached : answer = _ :=
    answer_of_recent history between asked read filled assessed asked' named later before recent
  rw [attached]
  cases dated : Stamp.ofReading get.around.now with
  | error fault => simp only [Download.attachment, dated]; rfl
  | ok written =>
    obtain ⟨body, spelled, sent⟩ := Download.attachment_of_whole language dated whole
    have held := Download.fault?_disposition language
    refine ⟨body, spelled, ?_, ?_⟩
    next =>
      intro namable
      rw [sent, held.mpr namable]
      rfl
    next =>
      intro wide
      cases fault : Charset.latin1.fault? (Download.disposition language) with
      | none => exact absurd (held.mp fault) wide
      | some first =>
        rw [sent, fault]
        exact ⟨first, rfl⟩

section Sample

def posting (language : String) (now : Reading) : Visit :=
  ⟨⟨.unset, .noChoices, now⟩, ⟨"http://testserver", "POST", "/review", none,
    .form [("code", "x = 1"), ("language", language)]⟩⟩

def fetching (now : Reading) : Visit :=
  ⟨⟨.unset, .noChoices, now⟩, ⟨"http://testserver", "GET", "/review/download",
    some [("report_id", Shelf.reportId 1)], .absent⟩⟩

def postingTarget : Target := ⟨"http://testserver".toList, "/review".toList, []⟩

def fetchingTarget : Target :=
  ⟨"http://testserver".toList, "/review/download".toList,
    Pairs.encode [("report_id", Shelf.reportId 1)]⟩

theorem posting_asks (language : String) (now : Reading) :
    (posting language now).request.Asks "POST" .review postingTarget where
  resolved := show Target.resolve "http://testserver" "/review" none = _ by decide +kernel
  routed := by decide +kernel
  spelled := show String.ofList (upper "POST".toList) = _ by decide +kernel
  writable := rfl

theorem fetching_asks (now : Reading) :
    (fetching now).request.Asks "GET" .download fetchingTarget where
  resolved := show Target.resolve "http://testserver" "/review/download"
    (some [("report_id", Shelf.reportId 1)]) = _ by decide +kernel
  routed := by decide +kernel
  spelled := show String.ofList (upper "GET".toList) = _ by decide +kernel
  writable := rfl

theorem posting_told (language : String) (now : Reading) :
    IsWhole (Desk.empty.currentStatus (posting language now).around).1.reason := by
  have legible : ∀ visit ∈ [] ++ [posting language now], visit.around.provider.IsLegible :=
    List.forall_mem_singleton.mpr trivial
  exact Desk.isWhole_reason legible

theorem fetching_names : stripped
    (((Pairs.decode fetchingTarget.query).get? "report_id").getD "") = Shelf.reportId 1 := by
  decide +kernel

theorem downloaded_in_the_last_second :
    let post := posting " Go " (.exact 100)
    let between := [posting "日本" (.exact 200)]
    let get := fetching (.exact 399)
    isBlankText "x = 1" = false ∧ ∃ page result body, Desk.empty.answer post = .ok page ∧
      CodePoints.ofString body = Markdown.report "Go" result ⟨⟨1970, 1, 1⟩, 0, 6, 39⟩ ∧
      (Desk.empty.after (post :: between)).answer get =
        .ok ⟨200, some "text/markdown; charset=utf-8", none,
          some "attachment; filename=\"Go_code_review.md\"", .text body⟩ := by
  intro post between get
  have filled : isBlankText "x = 1" = false := by decide +kernel
  have asked := posting_asks " Go " (.exact 100)
  have read : formEntry post.request.body = .ok ⟨"x = 1", " Go ", false⟩ := rfl
  have language : stripped " Go " = "Go" := by decide +kernel
  obtain ⟨-, -, page, -, -, shown⟩ := shown_of_whole Desk.empty asked read filled rfl
    (isWhole_heuristic _ _ _) (posting_told _ _)
  obtain ⟨result, -, -, -, -, -, fetched⟩ := download_of_shown [] asked read filled shown
  have early : ∀ visit ∈ between, visit.around.now.NotAfter get.around.now :=
    List.forall_mem_singleton.mpr (.exact (by norm_num))
  have dated : Stamp.ofReading get.around.now = .ok ⟨⟨1970, 1, 1⟩, 0, 6, 39⟩ := by decide +kernel
  have answer := fetched between (fetching_asks (.exact 399)) fetching_names
    (.exact (by norm_num)) early (by decide +kernel)
  rw [dated, language] at answer
  obtain ⟨body, spelled, sent, -⟩ := answer
  have header : Response.received (Download.disposition "Go") =
      "attachment; filename=\"Go_code_review.md\"" := by decide +kernel
  rw [header] at sent
  exact ⟨filled, page, result, body, shown, spelled, sent (by decide +kernel)⟩

theorem wide_name_refused :
    let post := posting "日本" (.exact 0)
    let result := Heuristic.assess "x = 1" "日本" Heuristic.defaultExplanation
    (∃ status content page,
      Page.results (Page.banner status) "日本" result (Shelf.reportId 1) = .ok content ∧
      Response.html content = .ok page ∧ Desk.empty.answer post = .ok page) ∧
    (Desk.empty.after [post]).answer (fetching (.exact 0)) =
      .error (.download (.charset ⟨.latin1, 22, "日本"⟩)) := by
  intro post result
  have filled : isBlankText "x = 1" = false := by decide +kernel
  have asked := posting_asks "日本" (.exact 0)
  have read : formEntry post.request.body = .ok ⟨"x = 1", "日本", false⟩ := rfl
  have language : stripped "日本" = "日本" := by decide +kernel
  have shown := shown_of_whole Desk.empty asked read filled rfl (isWhole_heuristic _ _ _)
    (posting_told _ _)
  have answer := answer_of_recent [] [] asked read filled rfl (fetching_asks (.exact 0))
    fetching_names (.exact le_rfl) (List.forall_mem_nil _) (by decide +kernel)
  have refused : Download.attachment "日本" result (.exact 0) =
      .error (.charset ⟨.latin1, 22, "日本"⟩) := by decide +kernel
  simp only [language] at shown answer
  refine ⟨shown, answer.trans ?_⟩
  rw [show (fetching (.exact 0)).around.now = .exact 0 from rfl, refused]
  rfl

end Sample

end Web

end ReviewDesk

import ReviewDesk.Page.Template

set_option autoImplicit false

namespace ReviewDesk.Page

open Text

def frameTemplate : Template := [
  .text "<!DOCTYPE html>\n",
  .text "<html lang=\"en\">\n",
  .text "<head>\n",
  .text "  <meta charset=\"utf-8\">\n",
  .text "  <meta name=\"viewport\" content=\"width=device-width, initial-scale=1\">\n",
  .text "  <title>",
  .slot "title",
  .text "</title>\n",
  .text "  <style>",
  .slot "css",
  .text "</style>\n",
  .text "</head>\n",
  .text "<body>\n",
  .text "  ",
  .slot "ai_status_banner",
  .text "\n",
  .text "  ",
  .slot "content",
  .text "\n",
  .text "</body>\n",
  .text "</html>\n"]

def homeTemplate : Template := [
  .text "<h1>Code Review Assistant</h1>\n",
  .text "<p>AI-backed code review with an offline rule-based fallback.</p>\n",
  .text "<p>Endpoints:</p>\n",
  .text "<ul>\n",
  .text "  <li><a href=\"/review\">/review</a> - Form: paste code, view results</li>\n",
  .text "  <li><a href=\"/docs\">/docs</a> - Swagger UI</li>\n",
  .text "  <li><a href=\"/redoc\">/redoc</a> - ReDoc</li>\n",
  .text "  <li><a href=\"/health\">/health</a> - Liveness</li>\n",
  .text "  <li><a href=\"/languages\">/languages</a> - Supported languages</li>\n",
  .text "  <li><a href=\"/ai-status\">/ai-status</a> - AI availability</li>\n",
  .text "  <li><a href=\"/check\">/check</a> - Usage (POST)</li>\n",
  .text "  <li><a href=\"/analyze\">/analyze</a> - Usage (POST)</li>\n",
  .text "</ul>\n",
  .text "<p class=\"meta\">Use <a href=\"/review\">/review</a> to submit code, or POST /check or /analyze with JSON. See <a href=\"/docs\">/docs</a> for details.</p>\n"]

def analyzeTemplate : Template := [
  .text "<h1>POST /analyze</h1>\n",
  .text "<p>Send a JSON body for full analysis. The AI analyzer runs first; if it is unavailable or fails, the rule engine answers instead and <code>source</code> is <code>\"heuristic\"</code>.</p>\n",
  .text "<p><strong>Request body:</strong> <code>\x7b\"code\": \"...\", \"language\": \"java\", \"use_ai\": true\x7d</code></p>\n",
  .text "<p><a href=\"/\">Home</a> · <a href=\"/review\">Review</a> · <a href=\"/docs\">Swagger UI</a> · <a href=\"/redoc\">ReDoc</a> · <a href=\"/health\">Health</a> · <a href=\"/check\">Check</a></p>\n"]

def checkTemplate : Template := [
  .text "<h1>POST /check</h1>\n",
  .text "<p>Rule-based analysis only (no AI, no network). Send JSON: <code>\x7b\"code\": \"...\", \"language\": \"python\"\x7d</code>.</p>\n",
  .text "<p>The response has <code>issues</code>, <code>overallScore</code>, <code>explanation</code>, <code>source</code> and <code>summary</code>.</p>\n",
  .text "<p><a href=\"/\">Home</a> · <a href=\"/review\">Review</a> · <a href=\"/docs\">Swagger UI</a> · <a href=\"/redoc\">ReDoc</a> · <a href=\"/health\">Health</a> · <a href=\"/analyze\">Analyze</a></p>\n"]

def formTemplate : Template := [
  .text "<h1>Review code</h1>\n",
  .text "<p>Paste source code and pick its language. Languages without a dedicated rule set get the general checks.</p>\n",
  .slot "languages_grid",
  .text "\n",
  .slot "error_block",
  .text "\n",
  .text "<form method=\"post\" action=\"/review\">\n",
  .text "  <div>\n",
  .text "    <label for=\"language\">Language</label>\n",
  .text "    <select id=\"language\" name=\"language\">",
  .slot "language_options",
  .text "</select>\n",
  .text "  </div>\n",
  .text "  <div>\n",
  .text "    <label for=\"code\">Code</label>\n",
  .text "    <textarea id=\"code\" name=\"code\" spellcheck=\"false\">",
  .slot "code_value",
  .text "</textarea>\n",
  .text "  </div>\n",
  .text "  <div>\n",
  .text "    <label><input type=\"checkbox\" name=\"use_ai\" value=\"true\" checked> Use AI analysis when available</label>\n",
  .text "  </div>\n",
  .text "  <button type=\"submit\">Analyze</button>\n",
  .text "</form>\n",
  .text "<p><a href=\"/\">Home</a> · <a href=\"/docs\">Swagger UI</a> · <a href=\"/redoc\">ReDoc</a> · <a href=\"/health\">Health</a></p>\n"]

def resultsTemplate : Template := [
  .text "<h1>Results (",
  .slot "language",
  .text ")</h1>\n",
  .text "<p class=\"meta\">",
  .slot "source_label",
  .text "</p>\n",
  .text "<p class=\"score ",
  .slot "rating",
  .text "\">",
  .slot "score",
  .text "/100</p>\n",
  .text "<p>",
  .slot "explanation",
  .text "</p>\n",
  .text "<p><strong>",
  .slot "issue_count",
  .text "</strong> issue(s) found (",
  .slot "error_count",
  .text " error(s), ",
  .slot "warning_count",
  .text " warning(s), ",
  .slot "suggestion_count",
  .text " suggestion(s), ",
  .slot "info_count",
  .text " info).</p>\n",
  .text "<details class=\"collapsible-section\" open>\n",
  .text "  <summary>Issues</summary>\n",
  .text "  <div class=\"collapsible-content\">",
  .slot "issues_block",
  .text "\n",
  .text "  </div>\n",
  .text "</details>\n",
  .text "<p style=\"margin-top: 1.5rem;\"><a href=\"/review/download?report_id=",
  .slot "report_id",
  .text "\">Download report (Markdown)</a> · <a href=\"/review\">Review more code</a> · <a href=\"/\">Home</a></p>\n"]

def styleLines : List String := [
  "body \x7b font-family: system-ui, sans-serif; max-width: 48rem; margin: 2rem auto; padding: 0 1rem; \x7d\n",
  "h1 \x7b font-size: 1.25rem; font-weight: 600; \x7d\n",
  "ul \x7b list-style: none; padding: 0; \x7d\n",
  "li \x7b margin: 0.5rem 0; \x7d\n",
  "a \x7b color: #2563eb; text-decoration: none; \x7d\n",
  "a:hover \x7b text-decoration: underline; \x7d\n",
  "pre \x7b background: #f1f5f9; padding: 1rem; border-radius: 0.375rem; overflow-x: auto; font-size: 0.8125rem; white-space: pre-wrap; \x7d\n",
  "form \x7b display: flex; flex-direction: column; gap: 0.75rem; margin: 1rem 0; \x7d\n",
  "label \x7b display: block; font-size: 0.875rem; font-weight: 500; margin-bottom: 0.25rem; \x7d\n",
  "textarea \x7b width: 100%; min-height: 20rem; font-family: ui-monospace, monospace; font-size: 0.8125rem; padding: 0.5rem; box-sizing: border-box; \x7d\n",
  "select \x7b padding: 0.4rem 0.6rem; font-size: 0.9375rem; \x7d\n",
  "button \x7b align-self: flex-start; padding: 0.5rem 1rem; font-size: 0.9375rem; background: #2563eb; color: white; border: none; border-radius: 0.375rem; cursor: pointer; \x7d\n",
  "button:hover \x7b background: #1d4ed8; \x7d\n",
  ".meta \x7b color: #64748b; font-size: 0.875rem; margin-top: 1.5rem; \x7d\n",
  ".form-error \x7b color: #dc2626; margin: 1rem 0; padding: 0.75rem; background: #fef2f2; border-radius: 0.375rem; \x7d\n",
  ".ai-status \x7b padding: 0.5rem 0.75rem; border-radius: 0.375rem; font-size: 0.875rem; margin-bottom: 1rem; \x7d\n",
  ".ai-status.available \x7b background: #f0fdf4; color: #166534; \x7d\n",
  ".ai-status.unavailable \x7b background: #fffbeb; color: #92400e; \x7d\n",
  ".ai-status-icon \x7b margin-right: 0.5rem; \x7d\n",
  ".language-grid \x7b display: flex; flex-wrap: wrap; gap: 0.375rem; margin: 0.5rem 0 1rem; \x7d\n",
  ".language-tag \x7b font-size: 0.75rem; padding: 0.125rem 0.5rem; border-radius: 999px; \x7d\n",
  ".language-tag-full \x7b background: #dbeafe; color: #1e40af; \x7d\n",
  ".language-tag-general \x7b background: #f1f5f9; color: #475569; \x7d\n",
  ".score \x7b font-size: 2rem; font-weight: 700; \x7d\n",
  ".score.good \x7b color: #16a34a; \x7d\n",
  ".score.fair \x7b color: #d97706; \x7d\n",
  ".score.poor \x7b color: #dc2626; \x7d\n",
  ".issue \x7b margin: 1rem 0; padding: 0.75rem; background: #f8fafc; border-radius: 0.375rem; border-left: 4px solid #94a3b8; \x7d\n",
  ".issue.error \x7b border-left-color: #dc2626; \x7d\n",
  ".issue.warning \x7b border-left-color: #f59e0b; \x7d\n",
  ".issue.suggestion \x7b border-left-color: #3b82f6; \x7d\n",
  ".issue.info \x7b border-left-color: #94a3b8; \x7d\n",
  ".issue-meta \x7b font-size: 0.8125rem; color: #64748b; margin-bottom: 0.25rem; \x7d\n",
  ".issue-title \x7b font-weight: 500; margin-bottom: 0.25rem; \x7d\n",
  ".issue-desc \x7b font-size: 0.875rem; \x7d\n",
  ".issue-severity-pill \x7b padding: 0 0.375rem; border-radius: 999px; color: white; \x7d\n",
  ".issue-severity-high \x7b background: #dc2626; \x7d\n",
  ".issue-severity-medium \x7b background: #d97706; \x7d\n",
  ".issue-severity-low \x7b background: #16a34a; \x7d\n"]

def styleSheet : CodePoints := styleLines.flatMap CodePoints.ofString

end ReviewDesk.Page

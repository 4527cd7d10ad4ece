import ForumSummary.Export.Dataset
import ForumSummary.Report.Plan

/-!
# Downloads

Two tables can be downloaded: all rows of a report, and the posts of the discussion of a forum that
changed last.
-/

namespace ForumSummary.Report

/-- The name of a report's file, without extension. -/
def summaryFileName : String := "forum_summary_report"

/-- The name of a discussion's file, without extension. -/
def discussionFileName : String := "discussion"

/-- All rows of the report that a request asks for. -/
def exportRows (settings : Settings) (request : Request) : Session (List Row) := do
  let plan ← Plan.prepare request
  plan.query.fetchAll settings.timeout request.order

/-- The posts of the discussion of a forum that changed last. -/
def exportDiscussion (forumId : Int64) : Session Export.Dataset := do
  let forum ← Session.forum? forumId
  let forum ← Session.orFail (.forumNotFound forumId) forum
  let discussion ← Session.latestDiscussion? forum.id
  let discussion ← Session.orFail (.discussionNotFound forum.id) discussion
  let posts ← Session.posts discussion.id
  return Export.Dataset.ofPosts posts

end ForumSummary.Report

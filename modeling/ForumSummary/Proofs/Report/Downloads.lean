import ForumSummary.Proofs.Query.Parameters
import ForumSummary.Proofs.Report.Plans

/-!
# Downloads are the reports that pages show

A view and a download of one request look up the same records and are about the same rows. The
statement of the download is that of the page without its window, and the total of a page counts
what the rows are selected from (`exportRows_same_report`).
-/

namespace ForumSummary.Report

variable {settings : Settings} {request : Request} {store : Store}

/-- When both succeed, a view and a download make the same look-ups. The page's statement is the
download's with a window behind it, whose size and start are the last two arguments. The count's
statement goes on after its select list as theirs do between their select list and their groups, and
its arguments are the last of the download's. -/
theorem exportRows_same_report {view : View} {rows : List Row}
    (hview : (View.make settings request store).result = .ok view)
    (hrows : (exportRows settings request store).result = .ok rows) :
    let window := settings.limits.pageRequest request
    ∃ (lookups : List Statement) (c b all : Sql.Bound),
      lookups =
        [Scope.lookup request.courseId request.forumId, .courseGroups view.courseId] ∧
      (View.make settings request store).sent =
        lookups ++ Statement.transaction settings.timeout [.count c, .rows b] ∧
      (exportRows settings request store).sent =
        lookups ++ Statement.transaction settings.timeout [.rows all] ∧
      (b.text = all.text ++ " LIMIT $" ++ Numeral.natText (all.arguments.length + 1) ++
        " OFFSET $" ++ Numeral.natText (all.arguments.length + 2)) ∧
      (∃ size start : Int64, size.toInt = window.size.toNat ∧ start.toInt = window.start.toNat ∧
        b.arguments = all.arguments ++ [.int8 (some size), .int8 (some start)]) ∧
      (∃ selected, all.arguments = selected ++ c.arguments) ∧
      ∃ (q : Query) (list source groups limits : String),
        q.countStatement.bind = .ok c ∧ (q.pageStatement window).bind = .ok b ∧
        (q.rowStatement request.order).bind = .ok all ∧
        q.countStatement.inlined = "SELECT COUNT(DISTINCT \"u\".\"id\")" ++ source ∧
        (q.rowStatement request.order).inlined = list ++ source ++ groups ∧
        (q.pageStatement window).inlined = list ++ source ++ groups ++ limits ∧
        ¬ " FROM ".toList <:+: list.toList ∧ " FROM ".toList <+: source.toList ∧
        ¬ " GROUP BY ".toList <:+: source.toList ∧ " GROUP BY ".toList <+: groups.toList ∧
        " LIMIT ".toList <+: limits.toList := by
  intro window
  obtain ⟨plan, c, b, total, _, hplan, hc, hb, hsent, -, -, rfl⟩ := View.make_eq_ok hview
  obtain ⟨plan', all, hplan', hall, hsentAll, -⟩ := exportRows_eq_ok hrows
  obtain rfl := Except.ok.inj (hplan.symm.trans hplan')
  obtain ⟨all', size, start, hall', hsize, hstart, htext, harguments⟩ :=
    Query.bind_pageStatement_iff.1 hb
  obtain rfl := Except.ok.inj (hall.symm.trans hall')
  obtain ⟨scope, courseGroups, -, hmade, hlookups⟩ := Plan.prepare_eq_ok hplan
  obtain ⟨list, groups, hinlined, hlist, hgroups⟩ :=
    plan.query.exists_inlined_rowStatement_eq request.order
  obtain ⟨limits, hpaged, hlimits⟩ := plan.query.exists_inlined_pageStatement_eq window
  refine ⟨_, c, b, all, ?_, hsent, hsentAll, htext, ⟨size, start, hsize, hstart, harguments⟩,
    Query.exists_arguments_rowStatement_eq hc hall, plan.query, list, plan.query.sourceText, groups,
    limits, hc, hb, hall, plan.query.inlined_countStatement, hinlined, hinlined ▸ hpaged, hlist,
    plan.query.isPrefix_sourceText, plan.query.not_isInfix_sourceText, hgroups, hlimits⟩
  rw [hlookups, hmade]
  rfl

theorem exportRows_sample : ∃ (lookups : List Statement) (b all : Sql.Bound),
    (exportRows ⟨.ofNumbers 25 500, 10000⟩ { forumId := 4, page := 2 } .sample).sent =
      lookups ++ Statement.transaction 10000 [.rows all] ∧
    b.text = all.text ++ " LIMIT $" ++ Numeral.natText (all.arguments.length + 1) ++
      " OFFSET $" ++ Numeral.natText (all.arguments.length + 2) ∧
    b.arguments = all.arguments ++ [.int8 (some 25), .int8 (some 25)] := by
  have hview : (View.make ⟨.ofNumbers 25 500, 10000⟩ { forumId := 4, page := 2 }
      .sample).result = .ok _ := rfl
  have hrows : (exportRows ⟨.ofNumbers 25 500, 10000⟩ { forumId := 4, page := 2 }
      .sample).result = .ok _ := rfl
  obtain ⟨lookups, c, b, all, -, -, hsent, htext, ⟨size, start, hsize, hstart, harguments⟩, -⟩ :=
    exportRows_same_report hview hrows
  have hsize' : size = 25 := Int64.toInt_inj.1 (hsize.trans (by decide))
  have hstart' : start = 25 := Int64.toInt_inj.1 (hstart.trans (by decide))
  exact ⟨lookups, b, all, hsent, htext, by rw [harguments, hsize', hstart']⟩

end ForumSummary.Report

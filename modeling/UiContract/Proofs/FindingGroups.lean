import Mathlib.Data.List.Induction
import UiContract.Proofs.ReportOrder
import UiContract.Proofs.SortedMap
import UiContract.Report.Text

/-!
The findings of a report as the text of `render_violations`. They fall into groups, one for each check that
has found something, and however a report lists them there is only one way to group them. The text is made of
the lines of the groups with an empty line between two of them, and there is none exactly where there are no
findings.
-/
namespace UiContract.Report

section Groups

def ofCheck (check : Check) (found : List Violation) : List Violation :=
  found.filter fun violation => violation.rule = check

/-- A list of findings in groups: one for each check that has some, in the order of the checks, each
with all findings of its check in the order of the list. -/
structure Groups (found : List Violation) (groups : List (Check × List Violation)) : Prop where
  ascending : groups.Pairwise fun earlier later => compare earlier.1 later.1 = .lt
  whole : ∀ group ∈ groups, group.2 = ofCheck group.1 found
  occupied : ∀ group ∈ groups, group.2 ≠ []
  covers : ∀ violation ∈ found, ∃ group ∈ groups, group.1 = violation.rule

def collect (groups : SortedMap Check (List Violation)) (violation : Violation) :
    SortedMap Check (List Violation) :=
  groups.insert violation.rule ((groups.find? violation.rule).getD [] ++ [violation])

def grouped (found : List Violation) : SortedMap Check (List Violation) :=
  found.foldl collect {}

variable {found : List Violation}

theorem mem_all (check : Check) : check ∈ Check.all := by
  cases check <;> decide

theorem find_grouped (check : Check) : (grouped found).find? check =
    if ofCheck check found = [] then none else some (ofCheck check found) := by
  induction found using List.reverseRecOn with
  | nil => rfl
  | append_singleton front last ih =>
      rw [grouped, List.foldl_append, List.foldl_cons, List.foldl_nil, ← grouped, collect,
        SortedMap.find_insert]
      by_cases same : check = last.rule
      · subst same
        have more : ofCheck last.rule (front ++ [last]) = ofCheck last.rule front ++ [last] := by
          simp [ofCheck]
        have before : ((grouped front).find? last.rule).getD [] = ofCheck last.rule front := by
          rw [ih]
          split
          · rename_i none
            exact none.symm
          · rfl
        rw [if_pos Std.ReflCmp.compare_self, before, more, if_neg (by simp)]
      · have kept : ofCheck check (front ++ [last]) = ofCheck check front := by
          simp [ofCheck, Ne.symm same]
        rw [if_neg (same ∘ Std.LawfulEqOrd.eq_of_compare), ih, kept]

theorem mem_grouped (group : Check × List Violation) :
    group ∈ (grouped found).entries ↔ group.2 ≠ [] ∧ group.2 = ofCheck group.1 found := by
  rw [← (grouped found).find_eq_some_iff, find_grouped]
  split
  · rename_i none
    simp [none]
  · rename_i some
    rw [Option.some.injEq, eq_comm]
    exact ⟨fun same => ⟨same ▸ some, same⟩, And.right⟩

theorem groups_grouped (found : List Violation) : Groups found (grouped found).entries where
  ascending := (grouped found).ascending
  whole group member := ((mem_grouped group).mp member).2
  occupied group member := ((mem_grouped group).mp member).1
  covers violation member := by
    refine ⟨(violation.rule, ofCheck violation.rule found), (mem_grouped _).mpr ⟨?_, rfl⟩, rfl⟩
    exact List.ne_nil_of_mem (List.mem_filter.mpr ⟨member, decide_eq_true rfl⟩)

theorem Groups.unique {groups : List (Check × List Violation)} (falls : Groups found groups) :
    groups = (grouped found).entries := by
  refine congrArg SortedMap.entries
    (SortedMap.eq_of_find ⟨groups, falls.ascending⟩ (grouped found) fun check => ?_)
  refine Option.ext fun members => ?_
  rw [SortedMap.find_eq_some_iff, SortedMap.find_eq_some_iff, mem_grouped]
  constructor
  · exact fun member => ⟨falls.occupied _ member, falls.whole _ member⟩
  · rintro ⟨some, same⟩
    obtain ⟨violation, listed⟩ := List.exists_mem_of_ne_nil members some
    change members = ofCheck check found at same
    rw [same] at listed
    obtain ⟨inside, rule⟩ := List.mem_filter.mp listed
    obtain ⟨⟨other, others⟩, member, known⟩ := falls.covers violation inside
    change other = violation.rule at known
    obtain rfl : other = check := known.trans (decide_eq_true_eq.mp rule)
    rwa [same, ← falls.whole _ member]

theorem grouped_eq (found : List Violation) : (grouped found).entries =
    Check.all.filterMap fun check =>
      if ofCheck check found = [] then none else some (check, ofCheck check found) := by
  have listed : ∀ group, group ∈ (Check.all.filterMap fun check =>
      if ofCheck check found = [] then none else some (check, ofCheck check found)) ↔
        group.2 ≠ [] ∧ group.2 = ofCheck group.1 found := by
    rintro ⟨check, members⟩
    simp only [List.mem_filterMap, Option.ite_none_left_eq_some, Option.some.injEq, Prod.mk.injEq]
    constructor
    · rintro ⟨check, -, some, rfl, rfl⟩
      exact ⟨some, rfl⟩
    · rintro ⟨some, rfl⟩
      exact ⟨check, mem_all check, some, rfl, rfl⟩
  refine (Groups.unique ⟨?_, fun group member => ((listed group).mp member).2,
    fun group member => ((listed group).mp member).1, ?_⟩).symm
  · refine List.Pairwise.filterMap _ ?_ (show Check.all.Pairwise (compare · · = .lt) by decide)
    intro check other before group member group' member'
    rw [Option.ite_none_left_eq_some] at member member'
    rw [← (Prod.mk.inj (Option.some.inj member.2)).1, ← (Prod.mk.inj (Option.some.inj member'.2)).1]
    exact before
  · intro violation member
    refine ⟨(violation.rule, ofCheck violation.rule found), (listed _).mpr ⟨?_, rfl⟩, rfl⟩
    exact List.ne_nil_of_mem (List.mem_filter.mpr ⟨member, decide_eq_true rfl⟩)

theorem flatMap_occupied (checks : List Check) : (checks.filterMap fun check =>
    if ofCheck check found = [] then none else some (check, ofCheck check found)).flatMap Prod.snd =
      checks.flatMap fun check => ofCheck check found := by
  induction checks with
  | nil => rfl
  | cons check rest ih =>
      rw [List.filterMap_cons, List.flatMap_cons, ← ih]
      by_cases empty : ofCheck check found = []
      · rw [if_pos empty, empty, List.nil_append]
      · rw [if_neg empty, List.flatMap_cons]

theorem ofCheck_ofCheck (check other : Check) :
    ofCheck other (ofCheck check found) = if check = other then ofCheck check found else [] := by
  rw [ofCheck, ofCheck, List.filter_filter]
  split
  · rename_i same
    exact List.filter_congr fun violation _ => by simp [same]
  · rename_i differ
    refine List.filter_eq_nil_iff.mpr fun violation _ both => ?_
    simp only [Bool.and_eq_true, decide_eq_true_eq] at both
    exact differ (both.2.symm.trans both.1)

theorem ascending_flatMap
    (ascending : found.Pairwise fun first second => (Violation.order first second).isLE = true) :
    (Check.all.flatMap fun check => ofCheck check found).Pairwise
      fun first second => (Violation.order first second).isLE = true := by
  refine List.pairwise_flatMap.mpr ⟨fun check _ => ascending.filter _, ?_⟩
  refine List.Pairwise.imp ?_ (show Check.all.Pairwise (compare · · = .lt) by decide)
  intro check other before first member second later
  have rules : first.rule = check ∧ second.rule = other :=
    ⟨decide_eq_true_eq.mp (List.mem_filter.mp member).2,
      decide_eq_true_eq.mp (List.mem_filter.mp later).2⟩
  have below : compareOn Violation.rule first second = .lt := by
    rw [compareOn, rules.1, rules.2, before]
  rw [Violation.order, compareLex, below]
  rfl

/-- Findings in order stand group after group, since the groups one after the other are in order and
have the same findings of each check. -/
theorem flatMap_grouped
    (ascending : found.Pairwise fun first second => (Violation.order first second).isLE = true) :
    (grouped found).entries.flatMap Prod.snd = found := by
  rw [grouped_eq, flatMap_occupied, ← Violation.sort_of_ascending (ascending_flatMap ascending)]
  refine (Violation.sort_eq_of_rules _ _ fun other => ?_).trans
    (Violation.sort_of_ascending ascending)
  change ofCheck other (Check.all.flatMap fun check => ofCheck check found) = ofCheck other found
  rw [ofCheck, List.filter_flatMap]
  change (Check.all.flatMap fun check => ofCheck other (ofCheck check found)) = ofCheck other found
  simp only [ofCheck_ofCheck]
  cases other <;> simp [Check.all]

end Groups

section Rendering

def terminated (lines : List String) : String :=
  String.join (lines.map fun line => line ++ "\n")

def location (violation : Violation) : String :=
  match violation.line with
  | some line => violation.subject ++ ":" ++ toString line
  | none => violation.subject

def findingLines (violation : Violation) : List String :=
  ("  " ++ Text.padRight 7 violation.level.name ++ " " ++ location violation ++ ": " ++
    violation.message) :: (violation.hint.map fun hint => "          hint: " ++ hint).toList

def groupLines (group : Check × List Violation) : List String :=
  (group.1.name ++ " (" ++ toString group.2.length ++ ")") :: group.2.flatMap findingLines

theorem terminated_cons (line : String) (lines : List String) :
    terminated (line :: lines) = line ++ "\n" ++ terminated lines := by
  rw [terminated, List.map_cons, String.join_cons]
  rfl

theorem terminated_append (front back : List String) :
    terminated (front ++ back) = terminated front ++ terminated back := by
  rw [terminated, List.map_append, String.join_append]
  rfl

theorem terminated_findingLines (violation : Violation) :
    terminated (findingLines violation) = violationLines violation := by
  obtain ⟨rule, subject, level, message, hint, line⟩ := violation
  rw [findingLines, terminated_cons, violationLines]
  cases hint with
  | none => rfl
  | some hint =>
      have hinted : terminated ["          hint: " ++ hint] = "          hint: " ++ hint ++ "\n" := by
        rw [terminated_cons, terminated, List.map_nil, String.join_nil, String.append_empty]
      rw [Option.map_some, Option.toList_some, hinted]
      rfl

theorem terminated_groupLines (check : Check) (members : List Violation) :
    terminated (groupLines (check, members)) = block check members := by
  have findings : terminated (members.flatMap findingLines) =
      String.join (members.map violationLines) := by
    induction members with
    | nil => rfl
    | cons first rest ih =>
        rw [List.flatMap_cons, terminated_append, terminated_findingLines, ih, List.map_cons,
          String.join_cons]
  rw [groupLines, terminated_cons, findings, block]
  simp only [String.append_assoc]
  rfl

theorem join_terminated (groups : List (List String)) :
    Text.join "\n" (groups.map terminated) = terminated ([""].intercalate groups) := by
  induction groups with
  | nil => rfl
  | cons first rest ih =>
      cases rest with
      | nil => simp [Text.join, List.intercalate]
      | cons second others =>
          have cut : [""].intercalate (first :: second :: others) =
              first ++ "" :: [""].intercalate (second :: others) := by
            simp [List.intercalate]
          have joined : Text.join "\n" ((first :: second :: others).map terminated) =
              terminated first ++ "\n" ++ Text.join "\n" ((second :: others).map terminated) := rfl
          rw [joined, ih, cut, terminated_append, terminated_cons, String.empty_append,
            String.append_assoc]

theorem terminated_eq_empty {lines : List String} : terminated lines = "" ↔ lines = [] := by
  cases lines with
  | nil => simp [terminated]
  | cons line rest => simp [terminated_cons]

theorem renderViolations_eq (report : Report) : report.renderViolations =
    terminated ([""].intercalate ((grouped report.violations).entries.map groupLines)) := by
  rw [← join_terminated, grouped_eq, List.map_map, List.map_filterMap, renderViolations]
  refine congrArg (Text.join "\n") (List.filterMap_congr fun check _ => ?_)
  have same : (report.violations.filter fun violation => violation.rule == check) =
      ofCheck check report.violations := rfl
  rw [same]
  cases ofCheck check report.violations with
  | nil => rfl
  | cons first rest => exact congrArg some (terminated_groupLines check (first :: rest)).symm

theorem renderViolations_eq_empty (report : Report) :
    report.renderViolations = "" ↔ report.violations = [] := by
  rw [renderViolations_eq, terminated_eq_empty]
  constructor
  · intro nothing
    refine List.eq_nil_iff_forall_not_mem.mpr fun violation member => ?_
    obtain ⟨group, listed, -⟩ := (groups_grouped report.violations).covers violation member
    revert nothing listed
    cases (grouped report.violations).entries with
    | nil => exact fun _ listed => nomatch listed
    | cons first rest => cases rest <;> simp [List.intercalate, groupLines]
  · intro none
    rw [none]
    rfl

/-- The findings of a report fall into groups in just one way, and the text is made of the lines of
these groups with an empty line between two of them, so there is no text exactly where nothing was
found. A report that was put in order lists its findings group after group. -/
theorem renderViolations_exact (report : Report) : ∃ groups,
    (∀ others, Groups report.violations others ↔ others = groups) ∧
    report.renderViolations = terminated ([""].intercalate (groups.map groupLines)) ∧
    (report.renderViolations = "" ↔ report.violations = []) ∧
    ∀ strict reachability checks found, report = make strict reachability checks found →
      groups.flatMap Prod.snd = report.violations := by
  refine ⟨(grouped report.violations).entries, fun others => ⟨Groups.unique, ?_⟩,
    renderViolations_eq report, renderViolations_eq_empty report, ?_⟩
  · rintro rfl
    exact groups_grouped report.violations
  · rintro strict reachability checks found rfl
    exact flatMap_grouped (Violation.sort_ascending found)

theorem renderViolations_two : ∃ groups,
    Groups [.error .registry "src/a.tsx" "is legacy", .warning .shell "src/b.tsx" "no shell"]
      groups ∧
    groups.flatMap Prod.snd =
      [.error .registry "src/a.tsx" "is legacy", .warning .shell "src/b.tsx" "no shell"] := by
  have kept : Violation.sort
      [.error .registry "src/a.tsx" "is legacy", .warning .shell "src/b.tsx" "no shell"] =
        [.error .registry "src/a.tsx" "is legacy", .warning .shell "src/b.tsx" "no shell"] :=
    Violation.sort_of_ascending (by decide)
  obtain ⟨groups, all, -, -, listed⟩ := renderViolations_exact (make false {} []
    [.error .registry "src/a.tsx" "is legacy", .warning .shell "src/b.tsx" "no shell"])
  have whole := listed false {} [] _ rfl
  have falls := (all groups).mpr rfl
  simp only [make, kept] at whole falls
  exact ⟨groups, falls, whole⟩

/-- The groups stand in the order of the checks also where the findings do not. -/
example : renderViolations ⟨1, false, {}, [],
    [.warning .shell "src/b.tsx" "no shell",
      { Violation.error .registry "src/a.tsx" "is legacy" with line := some 3, hint := some "use b" },
      .error .shell "src/a.tsx" "no shell"]⟩ =
    "registry (1)\n  error   src/a.tsx:3: is legacy\n          hint: use b\n\n" ++
      "shell (2)\n  warning src/b.tsx: no shell\n  error   src/a.tsx: no shell\n" := by
  decide

end Rendering

end UiContract.Report

import UiContract.Proofs.ReportOrder
import UiContract.Proofs.ReportRoundTrip

/-!
What the order of `sort_violations` leaves open. Reports put findings in order by four of their fields, so
lists with the same findings give one report exactly when the findings that agree in these four come in the
same order in both. A list is told from none of its permutations only if such findings are equal.
-/
namespace UiContract

namespace Violation

structure Key where
  rule : Check
  subject : String
  line : Option Nat
  message : String
deriving DecidableEq, Repr

def key (violation : Violation) : Key :=
  ⟨violation.rule, violation.subject, violation.line, violation.message⟩

def keyed (key : Key) (found : List Violation) : List Violation :=
  found.filter fun violation => violation.key = key

theorem ties_iff (first second : Violation) : ties first second = true ↔ second.key = first.key := by
  constructor
  · intro tied
    obtain ⟨-, others⟩ := compareLex_eq_eq.mp (beq_iff_eq.mp tied)
    obtain ⟨subjects, others⟩ := compareLex_eq_eq.mp others
    obtain ⟨lines, messages⟩ := compareLex_eq_eq.mp others
    unfold key
    rw [ties_rule first second tied, Std.LawfulEqOrd.eq_of_compare subjects,
      Std.LawfulEqOrd.eq_of_compare lines, Std.LawfulEqOrd.eq_of_compare messages]
  · intro same
    obtain ⟨rules, subjects, lines, messages⟩ := Key.mk.inj same
    simp [ties, order, compareLex, compareOn, rules, subjects, lines, messages,
      Std.ReflCmp.compare_self]

theorem filter_ties (violation : Violation) (found : List Violation) :
    found.filter (ties violation) = keyed violation.key found := by
  refine List.filter_congr fun other _ => Bool.eq_iff_iff.mpr ?_
  rw [ties_iff, decide_eq_true_eq]

theorem exists_key (key : Key) : ∃ violation : Violation, violation.key = key :=
  ⟨{ rule := key.rule, subject := key.subject, level := .error, message := key.message,
     line := key.line }, rfl⟩

/-- Two lists are put in the same order exactly when they have the same findings of each key, in the
same order. -/
theorem sort_eq_iff (left right : List Violation) :
    sort left = sort right ↔ ∀ key, keyed key left = keyed key right := by
  constructor
  · intro same key
    obtain ⟨violation, rfl⟩ := exists_key key
    rw [← filter_ties, ← filter_ties, ← filter_ties_sort, same, filter_ties_sort]
  · intro same
    refine eq_of_ties _ _ (sort_ascending left) (sort_ascending right) fun violation => ?_
    rw [filter_ties_sort, filter_ties_sort, filter_ties, filter_ties, same]

/-- Findings that are told apart by what they are put in order by. -/
def Distinguished (found : List Violation) : Prop :=
  ∀ first ∈ found, ∀ second ∈ found, first.key = second.key → first = second

instance : DecidablePred Distinguished := fun found =>
  inferInstanceAs (Decidable (∀ first ∈ found, ∀ second ∈ found, _ → _))

variable {left : List Violation}

theorem Distinguished.keyed_eq (apart : Distinguished left) {right : List Violation}
    (perm : left.Perm right) (key : Key) : keyed key left = keyed key right := by
  have among : (keyed key left).Perm (keyed key right) := perm.filter _
  refine among.eq_of_pairwise ?_ (List.pairwise_of_forall fun _ _ => trivial)
    (List.pairwise_of_forall fun _ _ => trivial)
  intro first second member other _ _
  obtain ⟨listed, same⟩ := List.mem_filter.mp member
  obtain ⟨listed', same'⟩ := List.mem_filter.mp other
  refine apart first listed second (perm.mem_iff.mpr listed') ?_
  rw [of_decide_eq_true same, of_decide_eq_true same']

theorem distinguished_of_sort (agrees : ∀ right, left.Perm right → sort left = sort right) :
    Distinguished left := by
  have first : ∀ violation ∈ left, (keyed violation.key left).head? = some violation := by
    intro violation member
    have moved := (sort_eq_iff _ _).mp (agrees _ (List.perm_cons_erase member)) violation.key
    rw [moved]
    simp [keyed]
  intro violation member other member' same
  have front := first violation member
  rw [same, first other member'] at front
  exact (Option.some.inj front).symm

end Violation

namespace Report

open Violation

variable (strict : Bool) (stats : ReachabilityStats) (checks : List CheckSummary)

theorem make_eq_iff (left right : List Violation) :
    make strict stats checks left = make strict stats checks right ↔ sort left = sort right := by
  constructor
  · exact congrArg Report.violations
  · intro same
    unfold make
    rw [same]

theorem fits_make {found : List Violation} (counted : stats.Fits) (summed : ∀ summary ∈ checks, summary.Fits)
    (placed : ∀ violation ∈ found, violation.Fits) : (make strict stats checks found).Fits where
  version := by
    show currentSchemaVersion < UInt32.size
    decide
  reachability := counted
  checks := summed
  violations violation member := placed violation ((sort_perm found).mem_iff.mp member)

theorem toJson_injective {first second : Report} (fits : first.Fits) (fits' : second.Fits)
    (same : first.toJson = second.toJson) : first = second := by
  have back : ∀ report : Report, report.Fits → ofJson report.toJson = .ok report := by
    intro report small
    have written : Json.Written (Json.table record) 128 (.object (report.entries ++ []))
        report := report.written small [] nofun
    rw [List.append_nil] at written
    exact Json.decode_pretty _ report written _ [] (List.append_nil _).symm nofun nofun
  have read := back first fits
  rw [same, back second fits'] at read
  exact (Except.ok.inj read).symm

/-- Lists of the same findings give equal reports, and so do their texts, exactly when findings that
agree in check, subject, line and message come in the same order in both. No order of the findings shows
exactly when such findings are equal, in level and hint too. -/
theorem make_order_seen (left : List Violation) :
    (∀ right, left.Perm right → (make strict stats checks left = make strict stats checks right ↔
      ∀ key, keyed key left = keyed key right)) ∧
    (stats.Fits → (∀ summary ∈ checks, summary.Fits) → (∀ violation ∈ left, violation.Fits) →
      ∀ right, left.Perm right →
        ((make strict stats checks left).toJson = (make strict stats checks right).toJson ↔
          ∀ key, keyed key left = keyed key right)) ∧
    ((∀ right, left.Perm right → make strict stats checks left = make strict stats checks right) ↔
      Distinguished left) := by
  have exact (right : List Violation) : make strict stats checks left = make strict stats checks right ↔
      ∀ key, keyed key left = keyed key right :=
    (make_eq_iff strict stats checks left right).trans (sort_eq_iff left right)
  refine ⟨fun right _ => exact right, fun counted summed placed right perm => ?_, ?_, ?_⟩
  · have fits := fits_make strict stats checks counted summed placed
    have fits' := fits_make strict stats checks counted summed fun violation member =>
      placed violation (perm.mem_iff.mpr member)
    rw [← exact right]
    exact ⟨toJson_injective fits fits', congrArg toJson⟩
  · intro agrees
    exact distinguished_of_sort fun right perm =>
      (make_eq_iff strict stats checks left right).mp (agrees right perm)
  · exact fun apart right perm => (exact right).mpr (apart.keyed_eq perm)

def shadeFinding (level : Level) (hint : String) : Violation :=
  { rule := .patterns, subject := "src/a.tsx", level, message := "avoid inline styles: style=",
    hint := some hint, line := some 3 }

def otherFinding : Violation := .error .patterns "src/b.tsx" "avoid inline styles: style="

theorem make_order_seen_shades :
    let left := [shadeFinding .error "Use a class", otherFinding, shadeFinding .error "Use a class"]
    let right := [otherFinding, shadeFinding .error "Use a class", shadeFinding .error "Use a class"]
    left.Perm right ∧ Distinguished left ∧ (∀ violation ∈ left, violation.Fits) ∧
      make false {} [] left = make false {} [] right ∧
      (make false {} [] left).toJson = (make false {} [] right).toJson := by
  intro left right
  have perm : left.Perm right := by decide
  have apart : Distinguished left := by decide
  have placed : ∀ violation ∈ left, violation.Fits := by decide
  have counted : ReachabilityStats.Fits {} := by decide
  obtain ⟨reports, texts, -⟩ := make_order_seen false {} [] left
  exact ⟨perm, apart, placed, (reports right perm).mpr (apart.keyed_eq perm),
    (texts counted nofun placed right perm).mpr (apart.keyed_eq perm)⟩

/-- Findings that differ in level or in hint alone stay as they were found, and every text shows it. -/
theorem shade_order_kept :
    let warned := shadeFinding .warning "Use a class"
    let failed := shadeFinding .error "Use a class"
    let hinted := shadeFinding .error "Use a token"
    [warned, failed].Perm [failed, warned] ∧ [hinted, failed].Perm [failed, hinted] ∧
      make false {} [] [warned, failed] ≠ make false {} [] [failed, warned] ∧
      make false {} [] [hinted, failed] ≠ make false {} [] [failed, hinted] ∧
      (make false {} [] [warned, failed]).toJson ≠ (make false {} [] [failed, warned]).toJson ∧
      renderViolations (make false {} [] [warned, failed]) ≠
        renderViolations (make false {} [] [failed, warned]) := by
  intro warned failed hinted
  have kept : ∀ first ∈ [warned, failed, hinted], ∀ second ∈ [warned, failed, hinted],
      sort [first, second] = [first, second] := fun first member second other =>
    sort_of_ascending (by revert first second; decide)
  simp only [make, kept warned (by simp) failed (by simp), kept failed (by simp) warned (by simp),
    kept hinted (by simp) failed (by simp), kept failed (by simp) hinted (by simp)]
  decide +kernel

end Report

end UiContract

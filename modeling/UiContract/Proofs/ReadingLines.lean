import Mathlib
import UiContract.Proofs.TreeOrder
import UiContract.Script.Semicolon

/-!
Readings and lines. A reading ends on no earlier line than it began on, and what it gives is told by
these two lines; of a string literal it is also said that it ends with the quote that it begins with.
This module says so of the readings of tokens, as triples that the verification conditions of the
grammar are made from.
-/
namespace UiContract.Script

open Std.Do

set_option mvcgen.warning false

theorem wp_reading {α : Type} (reading : Reading α)
    (post : PostCond α (.arg Cursor (.except Failure .pure))) (start : Cursor) :
    wp⟦reading⟧ post start = match reading start with
      | .ok (value, after) => post.1 value after
      | .error failure => post.2.1 failure := by
  simp only [WP.wp, PredTrans.apply_pushArg, StateT.run]
  cases reading start with
  | ok read => rfl
  | error failure => rfl

theorem triple_iff {α : Type} (reading : Reading α) (low : Nat) (holds : α → Nat → Prop) :
    ⦃fun cursor => ⌜low ≤ cursor.line⌝⦄ reading ⦃⇓? value cursor => ⌜holds value cursor.line⌝⦄ ↔
      ∀ start value after, low ≤ start.line → reading start = .ok (value, after) →
        holds value after.line := by
  constructor
  · intro triple start value after le read
    have met := triple start le
    rw [wp_reading, read] at met
    exact met
  · intro holds start le
    rw [wp_reading]
    cases read : reading start with
    | ok result => exact holds start result.1 result.2 le read
    | error failure => trivial

section Cursor

variable (low : Nat)

theorem advance_line (count : Nat) (cursor : Cursor) : cursor.line ≤ (cursor.advance count).line := by
  induction count generalizing cursor with
  | zero => exact le_rfl
  | succ count ih =>
      refine le_trans ?_ (ih cursor.step)
      unfold Cursor.step
      split
      · exact le_rfl
      · dsimp only
        split <;> omega

theorem step_line (cursor : Cursor) : cursor.line ≤ cursor.step.line :=
  advance_line 1 cursor

def Gap.line? : Gap → Option Nat
  | .openComment start | .blockComment start _ => some start.line
  | .space | .lineComment => none

theorem skipGap_line (rest : List Char) (gap : Gap) (comments : List Nat)
    (cursor : Cursor) (le : low ≤ cursor.line) (back : ∀ line ∈ gap.line?, low ≤ line) :
    low ≤ (skipGap gap comments cursor rest).1.line := by
  induction rest generalizing gap comments cursor with
  | nil =>
      cases gap with
      | space | lineComment => exact le
      | openComment start | blockComment start star => exact back start.line rfl
  | cons character rest ih =>
      have next := le.trans (step_line cursor)
      cases gap with
      | space =>
          unfold skipGap
          dsimp only
          split
          · exact ih _ _ _ next nofun
          · split
            · exact ih _ _ _ next nofun
            · refine ih _ _ _ next ?_
              rintro line ⟨⟩
              exact le
            · exact le
      | lineComment =>
          unfold skipGap
          refine ih _ _ _ next ?_
          split <;> exact nofun
      | openComment start => exact ih (.blockComment start false) _ _ next back
      | blockComment start star =>
          unfold skipGap
          dsimp only
          split
          · exact ih _ _ _ next nofun
          · exact ih _ _ _ next back

theorem statementStart_line (count : Nat) (cursor : Cursor) :
    cursor.line ≤ (statementStart count cursor).line := by
  induction count generalizing cursor with
  | zero => exact le_rfl
  | succ count ih =>
      have next := skipGap_line cursor.line cursor.rest .space [] cursor le_rfl nofun
      unfold statementStart
      dsimp only
      split
      · exact (next.trans (advance_line _ _)).trans (ih _)
      · exact next

@[spec] theorem skip_moves :
    ⦃fun cursor => ⌜low ≤ cursor.line⌝⦄ skip ⦃⇓? _ cursor => ⌜low ≤ cursor.line⌝⦄ := by
  rw [triple_iff]
  rintro start value after le ⟨⟩
  exact skipGap_line low start.rest .space [] start le nofun

@[spec] theorem skipComments_moves :
    ⦃fun cursor => ⌜low ≤ cursor.line⌝⦄ skipComments ⦃⇓? _ cursor => ⌜low ≤ cursor.line⌝⦄ := by
  rw [triple_iff]
  rintro start value after le ⟨⟩
  exact skipGap_line low start.rest .space [] start le nofun

@[spec] theorem toStatement_moves :
    ⦃fun cursor => ⌜low ≤ cursor.line⌝⦄ toStatement ⦃⇓? _ cursor => ⌜low ≤ cursor.line⌝⦄ := by
  rw [triple_iff]
  rintro start value after le ⟨⟩
  exact le.trans (statementStart_line _ start)

@[spec] theorem take_moves (count : Nat) :
    ⦃fun cursor => ⌜low ≤ cursor.line⌝⦄ take count ⦃⇓? _ cursor => ⌜low ≤ cursor.line⌝⦄ := by
  rw [triple_iff]
  rintro start value after le ⟨⟩
  exact le.trans (advance_line count start)

@[spec] theorem ahead_moves :
    ⦃fun cursor => ⌜low ≤ cursor.line⌝⦄ ahead ⦃⇓? _ cursor => ⌜low ≤ cursor.line⌝⦄ := by
  rw [triple_iff]
  rintro start value after le ⟨⟩
  exact le

@[spec] theorem behindToken_moves :
    ⦃fun cursor => ⌜low ≤ cursor.line⌝⦄ behindToken ⦃⇓? _ cursor => ⌜low ≤ cursor.line⌝⦄ := by
  rw [triple_iff]
  rintro start value after le ⟨⟩
  exact le

@[spec] theorem currentLine_reads :
    ⦃fun cursor => ⌜low ≤ cursor.line⌝⦄ currentLine
    ⦃⇓? line cursor => ⌜low ≤ cursor.line ∧ low ≤ line ∧ line ≤ cursor.line⌝⦄ := by
  intro start le
  rw [wp_reading]
  exact ⟨le, le, le_rfl⟩

@[spec] theorem fail_never {α : Type} : ⦃⌜True⌝⦄ (fail : Reading α) ⦃⇓? _ => ⌜False⌝⦄ := by
  intro start _
  rw [wp_reading]
  trivial

/-- A choice gives what its first reading gives, or what the second one gives from the same place. -/
@[spec] theorem orElse_reads {α : Type} {low : Nat} (first second : Reading α)
    (post : PostCond α (.arg Cursor (.except Failure .pure)))
    (either : ⦃fun cursor => ⌜low ≤ cursor.line⌝⦄ first ⦃(post.1, ExceptConds.true)⦄)
    (other : ⦃fun cursor => ⌜low ≤ cursor.line⌝⦄ second ⦃post⦄) :
    ⦃fun cursor => ⌜low ≤ cursor.line⌝⦄ orElse first second ⦃post⦄ := by
  intro start le
  have met := either start le
  rw [wp_reading] at met ⊢
  unfold orElse
  cases read : first start with
  | ok result =>
      rw [read] at met
      exact met
  | error failure =>
      have fallback := other { start with reached := max start.reached failure.reached } le
      rw [wp_reading] at fallback
      exact fallback

end Cursor

theorem stringEnd_closed (quote : Char) (skipped count : Nat) (rest : List Char) (length : Nat)
    (closed : stringEnd quote skipped count rest = .closed length) :
    ∃ inside behind, rest = inside ++ quote :: behind ∧ length = count + inside.length + 1 := by
  induction rest generalizing skipped count with
  | nil =>
      rw [stringEnd] at closed
      contradiction
  | cons character rest ih =>
      -- Unless the literal ends here, the character stands inside it.
      have inside : ∀ skipped, stringEnd quote skipped (count + 1) rest = .closed length →
          ∃ inside behind, character :: rest = inside ++ quote :: behind ∧
            length = count + inside.length + 1 := by
        intro skipped closed
        obtain ⟨inside, behind, rfl, rfl⟩ := ih skipped (count + 1) closed
        exact ⟨character :: inside, behind, rfl, by rw [List.length_cons]; omega⟩
      cases skipped with
      | succ skipped => exact inside skipped closed
      | zero =>
          rw [stringEnd] at closed
          split at closed
          · rename_i ends
            rw [beq_iff_eq.mp ends]
            exact ⟨[], rest, rfl, (StringEnd.closed.inj closed).symm⟩
          · split at closed
            · split at closed
              · exact inside _ closed
              · contradiction
            · split at closed
              · contradiction
              · exact inside 0 closed

theorem isLiteral_take (quote : Char) (behind : List Char) (length : Nat)
    (opens : (quote == '"' || quote == '\'') = true)
    (closed : stringEnd quote 0 0 behind = .closed length) :
    IsLiteral ((quote :: behind).take (length + 1)) := by
  obtain ⟨inside, rest, rfl, rfl⟩ := stringEnd_closed quote 0 0 behind length closed
  rw [Bool.or_eq_true, beq_iff_eq, beq_iff_eq] at opens
  refine ⟨quote, inside, opens, ?_⟩
  rw [List.take_succ_cons, List.append_cons, Nat.zero_add]
  exact congrArg _ (List.take_left' List.length_append)

grind_pattern isLiteral_take => stringEnd quote 0 0 behind, StringEnd.closed length

section Tokens

variable (low : Nat)

@[spec] theorem sign_moves (text : String) :
    ⦃fun cursor => ⌜low ≤ cursor.line⌝⦄ sign text ⦃⇓? _ cursor => ⌜low ≤ cursor.line⌝⦄ := by
  mvcgen [sign] with grind

@[spec] theorem sign?_moves (text : String) :
    ⦃fun cursor => ⌜low ≤ cursor.line⌝⦄ sign? text ⦃⇓? _ cursor => ⌜low ≤ cursor.line⌝⦄ := by
  mvcgen [sign?] with grind

@[spec] theorem signIf_moves (holds : Bool) (text : String) :
    ⦃fun cursor => ⌜low ≤ cursor.line⌝⦄ signIf holds text ⦃⇓? _ cursor => ⌜low ≤ cursor.line⌝⦄ := by
  mvcgen [signIf]

@[spec] theorem crossesLine_moves :
    ⦃fun cursor => ⌜low ≤ cursor.line⌝⦄ crossesLine ⦃⇓? _ cursor => ⌜low ≤ cursor.line⌝⦄ := by
  mvcgen [crossesLine]
  intro cursor le
  rw [wp_reading]
  exact le_trans ‹_› le

@[spec] theorem upcoming_moves :
    ⦃fun cursor => ⌜low ≤ cursor.line⌝⦄ upcoming ⦃⇓? _ cursor => ⌜low ≤ cursor.line⌝⦄ := by
  mvcgen [upcoming] with grind

@[spec] theorem anyWord_reads :
    ⦃fun cursor => ⌜low ≤ cursor.line⌝⦄ anyWord
    ⦃⇓? word cursor => ⌜low ≤ cursor.line ∧ low ≤ word.line ∧ word.line ≤ cursor.line⌝⦄ := by
  mvcgen [anyWord] with grind

@[spec] theorem theWord_reads (text : String) :
    ⦃fun cursor => ⌜low ≤ cursor.line⌝⦄ theWord text
    ⦃⇓? word cursor => ⌜low ≤ cursor.line ∧ low ≤ word.line ∧ word.line ≤ cursor.line⌝⦄ := by
  mvcgen [theWord] with grind

@[spec] theorem theWord?_moves (text : String) :
    ⦃fun cursor => ⌜low ≤ cursor.line⌝⦄ theWord? text ⦃⇓? _ cursor => ⌜low ≤ cursor.line⌝⦄ := by
  mvcgen [theWord?] with grind

@[spec] theorem wordIf_moves (holds : Bool) (text : String) :
    ⦃fun cursor => ⌜low ≤ cursor.line⌝⦄ wordIf holds text ⦃⇓? _ cursor => ⌜low ≤ cursor.line⌝⦄ := by
  mvcgen [wordIf]

@[spec] theorem upcomingWord_moves :
    ⦃fun cursor => ⌜low ≤ cursor.line⌝⦄ upcomingWord ⦃⇓? _ cursor => ⌜low ≤ cursor.line⌝⦄ := by
  mvcgen [upcomingWord] with grind

@[spec] theorem behindWord_moves :
    ⦃fun cursor => ⌜low ≤ cursor.line⌝⦄ behindWord ⦃⇓? _ cursor => ⌜low ≤ cursor.line⌝⦄ := by
  mvcgen [behindWord] with grind

@[spec] theorem stringLiteral_reads :
    ⦃fun cursor => ⌜low ≤ cursor.line⌝⦄ stringLiteral
    ⦃⇓? word cursor => ⌜low ≤ cursor.line ∧ low ≤ word.line ∧ word.line ≤ cursor.line ∧
      IsLiteral word.text⌝⦄ := by
  mvcgen [stringLiteral] with grind

@[spec] theorem semicolon_moves (language : Language) (ending : Ending) :
    ⦃fun cursor => ⌜low ≤ cursor.line⌝⦄ semicolon language ending
    ⦃⇓? _ cursor => ⌜low ≤ cursor.line⌝⦄ := by
  mvcgen [semicolon] with grind

@[spec] theorem endsHere_moves (language : Language) (ending : Ending) :
    ⦃fun cursor => ⌜low ≤ cursor.line⌝⦄ endsHere language ending
    ⦃⇓? _ cursor => ⌜low ≤ cursor.line⌝⦄ := by
  mvcgen [endsHere] with grind

end Tokens

end UiContract.Script

import UiContract.Proofs.ExpressionEnds
import UiContract.Regex.Machine

/-!
What the instructions of an expression do. Whatever stands around them, from the first of them one comes to
the instruction behind them at exactly the points where an occurrence of the expression can end. An assembly
only adds instructions, and patches none but its own, so each part can be looked at alone.
-/
namespace UiContract.Regex

/-- From an instruction at a point the end of an occurrence is reached at another point, in a number of
moves. -/
inductive Accepts (code : Array Instruction) : Nat → Nat → Point → Point → Prop
  | accept {index : Nat} {point : Point} : code[index]? = some .accept →
      Accepts code 0 index point point
  | consume {moves index next : Nat} {set : CharSet} {before : Option Char} {character : Char}
      {rest : List Char} {last : Point} : code[index]? = some (.consume set next) →
      set.contains character = true → Accepts code moves next ⟨some character, rest⟩ last →
      Accepts code (moves + 1) index ⟨before, character :: rest⟩ last
  | check {moves index next : Nat} {look : Look} {point last : Point} :
      code[index]? = some (.check look next) → look.holds point = true →
      Accepts code moves next point last → Accepts code (moves + 1) index point last
  | first {moves index first second : Nat} {point last : Point} :
      code[index]? = some (.fork first second) → Accepts code moves first point last →
      Accepts code (moves + 1) index point last
  | second {moves index first second : Nat} {point last : Point} :
      code[index]? = some (.fork first second) → Accepts code moves second point last →
      Accepts code (moves + 1) index point last

section Accepts

variable {code : Array Instruction} {moves index : Nat} {point last : Point}

theorem accepts_accept (stands : code[index]? = some .accept) :
    Accepts code moves index point last ↔ moves = 0 ∧ last = point := by
  constructor
  · intro accepts
    cases accepts <;> simp_all
  · rintro ⟨rfl, rfl⟩
    exact .accept stands

theorem accepts_consume {set : CharSet} {next : Nat} (stands : code[index]? = some (.consume set next)) :
    Accepts code moves index point last ↔ ∃ character rest fewer, point.rest = character :: rest ∧
      set.contains character = true ∧ moves = fewer + 1 ∧
        Accepts code fewer next ⟨some character, rest⟩ last := by
  constructor
  · intro accepts
    cases accepts with
    | consume other member later =>
        obtain ⟨rfl, rfl⟩ := Instruction.consume.inj (Option.some.inj (stands.symm.trans other))
        exact ⟨_, _, _, rfl, member, rfl, later⟩
    | _ other => simp [stands] at other
  · obtain ⟨before, _⟩ := point
    rintro ⟨character, rest, fewer, rfl, member, rfl, later⟩
    exact .consume stands member later

theorem accepts_check {look : Look} {next : Nat} (stands : code[index]? = some (.check look next)) :
    Accepts code moves index point last ↔
      look.holds point = true ∧ ∃ fewer, moves = fewer + 1 ∧ Accepts code fewer next point last := by
  constructor
  · intro accepts
    cases accepts with
    | check other holds later =>
        obtain ⟨rfl, rfl⟩ := Instruction.check.inj (Option.some.inj (stands.symm.trans other))
        exact ⟨holds, _, rfl, later⟩
    | _ other => simp [stands] at other
  · rintro ⟨holds, fewer, rfl, later⟩
    exact .check stands holds later

theorem accepts_fork {first second : Nat} (stands : code[index]? = some (.fork first second)) :
    Accepts code moves index point last ↔ ∃ fewer, moves = fewer + 1 ∧
      (Accepts code fewer first point last ∨ Accepts code fewer second point last) := by
  constructor
  · intro accepts
    cases accepts with
    | first other later =>
        obtain ⟨rfl, rfl⟩ := Instruction.fork.inj (Option.some.inj (stands.symm.trans other))
        exact ⟨_, rfl, .inl later⟩
    | second other later =>
        obtain ⟨rfl, rfl⟩ := Instruction.fork.inj (Option.some.inj (stands.symm.trans other))
        exact ⟨_, rfl, .inr later⟩
    | _ other => simp [stands] at other
  · rintro ⟨fewer, rfl, later | later⟩
    · exact .first stands later
    · exact .second stands later

theorem accepts_repeatOrLeave {greedy : Bool} {again leave : Nat}
    (stands : code[index]? = some (repeatOrLeave greedy again leave)) :
    Accepts code moves index point last ↔ ∃ fewer, moves = fewer + 1 ∧
      (Accepts code fewer again point last ∨ Accepts code fewer leave point last) := by
  cases greedy with
  | true => exact accepts_fork stands
  | false => exact (accepts_fork stands).trans (exists_congr fun _ => and_congr_right fun _ => or_comm)

end Accepts

/-- Every way from one instruction to the end of an occurrence goes through another one, behind an
occurrence of what the part between them stands for; and there is such a way through every occurrence. -/
structure Leads (code : Array Instruction) (part : Point → Point → Prop) (start next : Nat) : Prop where
  sound {moves : Nat} {point last : Point} : Accepts code moves start point last →
    ∃ middle, part point middle ∧ ∃ fewer ≤ moves, Accepts code fewer next middle last
  complete {moves : Nat} {point middle last : Point} : part point middle →
    Accepts code moves next middle last → ∃ more, Accepts code more start point last

section Leads

variable {code : Array Instruction} {part other : Point → Point → Prop} {start middle next : Nat}

theorem Leads.congr (leads : Leads code part start next)
    (same : ∀ point last, other point last ↔ part point last) : Leads code other start next := by
  have equal : other = part := funext fun point => funext fun last => propext (same point last)
  exact equal ▸ leads

theorem Leads.refl (index : Nat) : Leads code (fun point last => last = point) index index :=
  ⟨fun accepts => ⟨_, rfl, _, Nat.le_refl _, accepts⟩, fun same accepts => ⟨_, same ▸ accepts⟩⟩

theorem Leads.trans (first : Leads code part start middle) (second : Leads code other middle next) :
    Leads code (fun point last => ∃ between, part point between ∧ other between last) start next := by
  constructor
  · intro moves point last accepts
    obtain ⟨between, here, fewer, most, later⟩ := first.sound accepts
    obtain ⟨ends, behind, least, most', rest⟩ := second.sound later
    exact ⟨ends, ⟨between, here, behind⟩, least, Nat.le_trans most' most, rest⟩
  · rintro moves point ends last ⟨between, here, behind⟩ accepts
    obtain ⟨more, later⟩ := second.complete behind accepts
    exact first.complete here later

theorem leads_consume {set : CharSet} (stands : code[start]? = some (.consume set next)) :
    Leads code (Expr.set set).Occurs start next := by
  constructor
  · intro moves point last accepts
    obtain ⟨character, rest, fewer, ahead, member, rfl, later⟩ := (accepts_consume stands).mp accepts
    exact ⟨_, Expr.mem_ends_set.mpr ⟨character, rest, ahead, member, rfl⟩, fewer, Nat.le_succ _, later⟩
  · intro moves point middle last occurs accepts
    obtain ⟨character, rest, ahead, member, rfl⟩ := Expr.mem_ends_set.mp occurs
    exact ⟨_, (accepts_consume stands).mpr ⟨character, rest, moves, ahead, member, rfl, accepts⟩⟩

theorem leads_check {look : Look} (stands : code[start]? = some (.check look next)) :
    Leads code (Expr.look look).Occurs start next := by
  constructor
  · intro moves point last accepts
    obtain ⟨holds, fewer, rfl, later⟩ := (accepts_check stands).mp accepts
    exact ⟨point, Expr.mem_ends_look.mpr ⟨rfl, holds⟩, fewer, Nat.le_succ _, later⟩
  · intro moves point middle last occurs accepts
    obtain ⟨rfl, holds⟩ := Expr.mem_ends_look.mp occurs
    exact ⟨_, (accepts_check stands).mpr ⟨holds, moves, rfl, accepts⟩⟩

theorem Leads.fork {left right : Nat} (stands : code[start]? = some (.fork left right))
    (first : Leads code part left next) (second : Leads code other right next) :
    Leads code (fun point last => part point last ∨ other point last) start next := by
  constructor
  · intro moves point last accepts
    obtain ⟨fewer, rfl, later | later⟩ := (accepts_fork stands).mp accepts
    · obtain ⟨middle, here, least, most, rest⟩ := first.sound later
      exact ⟨middle, .inl here, least, Nat.le_succ_of_le most, rest⟩
    · obtain ⟨middle, here, least, most, rest⟩ := second.sound later
      exact ⟨middle, .inr here, least, Nat.le_succ_of_le most, rest⟩
  · rintro moves point middle last (here | here) accepts
    · obtain ⟨more, later⟩ := first.complete here accepts
      exact ⟨_, (accepts_fork stands).mpr ⟨more, rfl, .inl later⟩⟩
    · obtain ⟨more, later⟩ := second.complete here accepts
      exact ⟨_, (accepts_fork stands).mpr ⟨more, rfl, .inr later⟩⟩

theorem Leads.repeatOrLeave {greedy : Bool} {again leave : Nat}
    (stands : code[start]? = some (repeatOrLeave greedy again leave)) (first : Leads code part again next)
    (second : Leads code other leave next) :
    Leads code (fun point last => part point last ∨ other point last) start next := by
  cases greedy with
  | true => exact first.fork stands second
  | false => exact (second.fork stands first).congr fun _ _ => or_comm

theorem Leads.loop {greedy : Bool} {turn leave : Nat}
    (stands : code[turn]? = some (Regex.repeatOrLeave greedy start leave))
    (body : Leads code part start turn) :
    Leads code (fun point last => ∃ count, Turns part count point last) turn leave := by
  constructor
  · -- Each time the way comes back there are fewer moves left.
    intro moves
    induction moves using Nat.strongRecOn with
    | _ moves ih =>
        intro point last accepts
        obtain ⟨fewer, rfl, later | later⟩ := (accepts_repeatOrLeave stands).mp accepts
        · obtain ⟨middle, here, least, most, rest⟩ := body.sound later
          obtain ⟨ends, ⟨count, turns⟩, left, most', behind⟩ := ih least (Nat.lt_succ_of_le most) rest
          exact ⟨ends, ⟨count + 1, .more here turns⟩, left, by omega, behind⟩
        · exact ⟨point, ⟨0, .none⟩, fewer, Nat.le_succ _, later⟩
  · rintro moves point middle last ⟨count, turns⟩ accepts
    induction turns with
    | none => exact ⟨_, (accepts_repeatOrLeave stands).mpr ⟨moves, rfl, .inr accepts⟩⟩
    | more here _ ih =>
        obtain ⟨more, later⟩ := ih accepts
        obtain ⟨further, before⟩ := body.complete here later
        exact ⟨_, (accepts_repeatOrLeave stands).mpr ⟨further, rfl, .inl before⟩⟩

end Leads

section Makes

variable {α β : Type}

def Holds (first : Nat) (part whole : Array Instruction) : Prop :=
  ∀ index, first ≤ index → index < part.size → whole[index]? = part[index]?

def Extends (code longer : Array Instruction) : Prop :=
  code.size ≤ longer.size ∧ ∀ index < code.size, longer[index]? = code[index]?

/-- An assembly adds instructions, and what it gives has a property in all code that has them where they
were put. -/
def Makes (make : Assembling α) (property : Array Instruction → α → Prop) : Prop :=
  ∀ code, Extends code (make code).2 ∧
    ∀ whole, Holds code.size (make code).2 whole → property whole (make code).1

variable {make : Assembling α} {property : Array Instruction → α → Prop}

theorem Makes.mono {weaker : Array Instruction → α → Prop} (makes : Makes make property)
    (implies : ∀ whole made, property whole made → weaker whole made) : Makes make weaker :=
  fun code => ⟨(makes code).1, fun whole holds => implies _ _ ((makes code).2 whole holds)⟩

theorem makes_pure {made : α} (holds : ∀ whole, property whole made) : Makes (pure made) property :=
  fun _ => ⟨⟨Nat.le_refl _, fun _ _ => rfl⟩, fun whole _ => holds whole⟩

theorem Makes.bind {next : α → Assembling β} {further : α → Array Instruction → β → Prop}
    (makes : Makes make property) (later : ∀ made, Makes (next made) (further made)) :
    Makes (make >>= next) fun whole last => ∃ made, property whole made ∧ further made whole last := by
  intro code
  obtain ⟨⟨longer, kept⟩, here⟩ := makes code
  obtain ⟨⟨longer', kept'⟩, behind⟩ := later (make code).1 (make code).2
  refine ⟨⟨Nat.le_trans longer longer', fun index inside => ?_⟩, fun whole holds => ?_⟩
  · exact (kept' index (Nat.lt_of_lt_of_le inside longer)).trans (kept index inside)
  · refine ⟨(make code).1, here whole fun index above inside => ?_, behind whole fun index above => ?_⟩
    · exact (holds index above (Nat.lt_of_lt_of_le inside longer')).trans (kept' index inside)
    · exact holds index (Nat.le_trans longer above)

theorem makes_emit (instruction : Instruction) :
    Makes (emit instruction) fun whole index => whole[index]? = some instruction := by
  intro code
  refine ⟨⟨by simp [emit], fun index inside => ?_⟩, fun whole holds => ?_⟩
  · exact Array.getElem?_push_lt inside |>.trans (Array.getElem?_eq_getElem inside).symm
  · exact (holds code.size (Nat.le_refl _) (by simp [emit])).trans Array.getElem?_push_size

/-- A loop is chosen at an instruction that is put there when its body is known. -/
theorem makes_loop {assemble : Nat → Assembling Nat} {body : Nat → Array Instruction → Nat → Prop}
    {greedy : Bool} {leave : Nat} (makes : ∀ turn, Makes (assemble turn) (body turn)) :
    Makes (loop assemble greedy leave) fun whole (start, turn) =>
      whole[turn]? = some (repeatOrLeave greedy start leave) ∧ body turn whole start := by
  intro code
  obtain ⟨⟨longer, kept⟩, here⟩ := makes code.size (code.push .accept)
  rw [Array.size_push] at longer kept here
  let made := assemble code.size (code.push .accept)
  show Extends code (made.2.setIfInBounds code.size (repeatOrLeave greedy made.1 leave)) ∧
    ∀ whole, Holds code.size (made.2.setIfInBounds code.size (repeatOrLeave greedy made.1 leave)) whole →
      whole[code.size]? = some (repeatOrLeave greedy made.1 leave) ∧ body code.size whole made.1
  refine ⟨⟨?_, fun index inside => ?_⟩, fun whole holds => ⟨?_, here whole fun index above inside => ?_⟩⟩
  · rw [Array.size_setIfInBounds]
    exact Nat.le_of_succ_le longer
  · rw [Array.getElem?_setIfInBounds_ne (Nat.ne_of_gt inside)]
    exact (kept index (Nat.lt_succ_of_lt inside)).trans
      (Array.getElem?_push_lt inside |>.trans (Array.getElem?_eq_getElem inside).symm)
  · rw [holds code.size (Nat.le_refl _) (by rwa [Array.size_setIfInBounds])]
    exact Array.getElem?_setIfInBounds_self_of_lt longer
  · rw [holds index (Nat.le_of_succ_le above) (by rwa [Array.size_setIfInBounds])]
    exact Array.getElem?_setIfInBounds_ne (Nat.ne_of_lt above)

end Makes

section Copies

variable {assemble : Nat → Assembling Nat} {part : Point → Point → Prop} {greedy : Bool} {leave : Nat}

def TurnsUpTo (part : Point → Point → Prop) (most : Nat) (point last : Point) : Prop :=
  ∃ count ≤ most, Turns part count point last

theorem turnsUpTo_zero {point last : Point} : TurnsUpTo part 0 point last ↔ last = point := by
  simp [TurnsUpTo, turns_zero]

theorem turnsUpTo_succ {most : Nat} {point last : Point} : TurnsUpTo part (most + 1) point last ↔
    (∃ middle, part point middle ∧ TurnsUpTo part most middle last) ∨ last = point := by
  constructor
  · rintro ⟨count, limited, turns⟩
    cases turns with
    | none => exact .inr rfl
    | more here later => exact .inl ⟨_, here, _, Nat.le_of_succ_le_succ limited, later⟩
  · rintro (⟨middle, here, count, limited, later⟩ | rfl)
    · exact ⟨count + 1, Nat.succ_le_succ limited, .more here later⟩
    · exact ⟨0, Nat.zero_le _, .none⟩

theorem makes_copies (makes : ∀ next, Makes (assemble next) fun whole start => Leads whole part start next)
    (count next : Nat) :
    Makes (copies assemble count next) fun whole start => Leads whole (Turns part count) start next := by
  induction count generalizing next with
  | zero => exact makes_pure fun whole => (Leads.refl next).congr fun _ _ => turns_zero
  | succ count ih =>
      refine ((makes next).bind ih).mono ?_
      rintro whole start ⟨middle, last, others⟩
      exact (others.trans last).congr fun _ _ => turns_concat

/-- Each of some copies that can be left out stands in front of those that were put there before it. -/
theorem makes_optionalCopies
    (makes : ∀ next, Makes (assemble next) fun whole start => Leads whole part start next)
    (count next : Nat) :
    Makes (optionalCopies assemble greedy leave count next) fun whole start =>
      ∀ most, Leads whole (TurnsUpTo part most) next leave →
        Leads whole (TurnsUpTo part (most + count)) start leave := by
  induction count generalizing next with
  | zero => exact makes_pure fun whole most leads => leads
  | succ count ih =>
      refine ((makes next).bind fun start => (makes_emit _).bind ih).mono ?_
      rintro whole last ⟨start, body, index, stands, further⟩ most leads
      have longer := further (most + 1)
      rw [Nat.add_right_comm, Nat.add_assoc] at longer
      refine longer ?_
      exact ((body.trans leads).repeatOrLeave stands (.refl leave)).congr fun _ _ => turnsUpTo_succ

end Copies

namespace Expr

section Repeated

variable {body : Expr} (made : ∀ next, Makes (body.assemble next) fun whole start =>
  Leads whole body.Occurs start next)

include made

theorem makes_bounded (least most : Nat) (greedy : Bool) (next : Nat) :
    Makes ((repeated least (some most) greedy body).assemble next) fun whole start =>
      Leads whole (repeated least (some most) greedy body).Occurs start next := by
  refine ((makes_optionalCopies made (most - least) next).bind (makes_copies made least)).mono ?_
  rintro whole start ⟨rest, optional, first⟩
  have none : Leads whole (TurnsUpTo body.Occurs 0) next next :=
    (Leads.refl next).congr fun _ _ => turnsUpTo_zero
  refine (first.trans (optional 0 none)).congr fun point last => mem_ends_repeated.trans ?_
  simp [TurnsUpTo]

theorem makes_least (least : Nat) (greedy : Bool) (next : Nat) :
    Makes ((repeated (least + 1) none greedy body).assemble next) fun whole start =>
      Leads whole (repeated (least + 1) none greedy body).Occurs start next := by
  refine ((makes_loop made).bind fun one => makes_copies made least one.1).mono ?_
  rintro whole start ⟨⟨one, turn⟩, ⟨stands, here⟩, first⟩
  refine (first.trans (here.trans (here.loop stands))).congr fun point last => ?_
  rw [Occurs, mem_ends_unbounded]
  simp only [turns_concat]
  constructor
  · rintro ⟨middle, ⟨between, turns, once⟩, further⟩
    exact ⟨between, turns, middle, once, further⟩
  · rintro ⟨between, turns, middle, once, further⟩
    exact ⟨middle, ⟨between, turns, once⟩, further⟩

/-- Where the body can be empty, the choice is made once more in front of it. -/
theorem makes_any (greedy : Bool) (next : Nat) :
    Makes ((repeated 0 none greedy body).assemble next) fun whole start =>
      Leads whole (repeated 0 none greedy body).Occurs start next := by
  have chosen (one : Nat × Nat) :
      Makes (if body.isNullable then emit (repeatOrLeave greedy one.1 next) else pure one.2 : Assembling Nat)
        fun whole start => whole[start]? = some (repeatOrLeave greedy one.1 next) ∨ start = one.2 := by
    split
    · exact (makes_emit _).mono fun _ _ => .inl
    · exact makes_pure fun _ => .inr rfl
  have any {point last : Point} : (repeated 0 none greedy body).Occurs point last ↔
      ∃ count, Turns body.Occurs count point last := by
    rw [Occurs, mem_ends_unbounded]
    simp [turns_zero]
  refine ((makes_loop made).bind chosen).mono ?_
  rintro whole start ⟨⟨one, turn⟩, ⟨stands, here⟩, again | rfl⟩
  · refine ((here.trans (here.loop stands)).repeatOrLeave again (.refl next)).congr fun point last => ?_
    rw [any]
    constructor
    · rintro ⟨count, turns⟩
      cases turns with
      | none => exact .inr rfl
      | more once later => exact .inl ⟨_, once, _, later⟩
    · rintro (⟨middle, once, count, later⟩ | rfl)
      · exact ⟨count + 1, .more once later⟩
      · exact ⟨0, .none⟩
  · exact (here.loop stands).congr fun _ _ => any

end Repeated

/-- The instructions of an expression lead to the instruction behind them through its occurrences. -/
theorem makes_assemble (expr : Expr) (next : Nat) :
    Makes (expr.assemble next) fun whole start => Leads whole expr.Occurs start next := by
  induction expr generalizing next with
  | empty =>
      refine makes_pure fun whole => (Leads.refl next).congr fun point last => ?_
      rw [Occurs, ends, List.mem_singleton]
  | set members => exact (makes_emit _).mono fun whole start stands => leads_consume stands
  | look asked => exact (makes_emit _).mono fun whole start stands => leads_check stands
  | seq first second one two =>
      refine ((two next).bind one).mono ?_
      rintro whole start ⟨middle, behind, here⟩
      exact (here.trans behind).congr fun _ _ => mem_ends_seq
  | either first second one two =>
      refine ((one next).bind fun left => (two next).bind fun right => makes_emit (.fork left right)).mono ?_
      rintro whole start ⟨left, here, right, there, stands⟩
      exact (here.fork stands there).congr fun _ _ => mem_ends_either
  | repeated least most greedy body ih =>
      cases most with
      | some most => exact makes_bounded ih least most greedy next
      | none =>
          cases least with
          | zero => exact makes_any ih greedy next
          | succ least => exact makes_least ih least greedy next

end Expr

/-- A machine comes to the end of an occurrence at the points where the occurrences of its expression end. -/
theorem Machine.ofExpr_accepts (expr : Expr) {point last : Point} :
    (∃ moves, Accepts (Machine.ofExpr expr).code moves (Machine.ofExpr expr).start point last) ↔
      expr.Occurs point last := by
  obtain ⟨-, made⟩ := ((makes_emit .accept).bind (expr.makes_assemble ·)) #[]
  obtain ⟨index, stands, leads⟩ := made _ fun _ _ _ => rfl
  constructor
  · rintro ⟨moves, accepts⟩
    obtain ⟨middle, occurs, fewer, -, ends⟩ := leads.sound accepts
    exact ((accepts_accept stands).mp ends).2 ▸ occurs
  · exact fun occurs => leads.complete occurs ((accepts_accept stands).mpr ⟨rfl, rfl⟩)

end UiContract.Regex

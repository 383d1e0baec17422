import UiContract.Proofs.Assembly

/-!
What a run of a machine finds. The ways that are open at a point are followed until each instruction that
they come to is marked, so whatever one of the ways accepts is accepted behind an instruction that takes a
character, unless an occurrence ends at once. A run therefore finds an occurrence wherever one begins, and
what it finds is one.
-/
namespace UiContract.Regex.Machine

section Following

variable {machine : Machine} {point : Point} {steps : Nat} {ways stack waiting : List Nat}
  {seen : Array Bool}

def Serves (code : Array Instruction) (point : Point) (ways : List Nat) (index : Nat) : Prop :=
  ∀ moves last, Accepts code moves index point last →
    ∃ way ∈ ways, ∃ more, Accepts code more way point last

def Takes (code : Array Instruction) (index : Nat) : Prop :=
  ∃ set next, code[index]? = some (.consume set next)

theorem accepts_lt {code : Array Instruction} {moves index : Nat} {last : Point}
    (accepts : Accepts code moves index point last) : index < code.size := by
  cases accepts <;> exact (Array.getElem?_eq_some_iff.mp ‹_›).1

theorem lt_of_fresh {index : Nat} (fresh : ¬ seen.getD index true = true) : index < seen.size := by
  by_contra beyond
  rw [Array.getD_eq_getD_getElem?, Array.getElem?_eq_none (Nat.le_of_not_lt beyond)] at fresh
  exact fresh rfl

theorem stands_of_unseen {index : Nat} (sized : seen.size = machine.code.size)
    (fresh : ¬ seen.getD index true = true) :
    machine.code[index]? = some (machine.code.getD index .accept) := by
  have inside : index < machine.code.size := sized ▸ lt_of_fresh fresh
  rw [Array.getD_eq_getD_getElem?, Array.getElem?_eq_getElem inside, Option.getD_some]

theorem follow_sound (sized : seen.size = machine.code.size)
    (stacked : ∀ way ∈ stack, Serves machine.code point ways way)
    (kept : ∀ way ∈ waiting, Takes machine.code way ∧ Serves machine.code point ways way) :
    (∀ way ∈ (machine.follow point steps stack seen waiting).waiting,
      Takes machine.code way ∧ Serves machine.code point ways way) ∧
    ((machine.follow point steps stack seen waiting).accepted = true →
      ∃ way ∈ ways, ∃ moves, Accepts machine.code moves way point point) := by
  have turned {kept : List Nat} {serves : Nat → Prop} (all : ∀ way ∈ kept, serves way) :
      ∀ way ∈ kept.reverse, serves way := fun way member => all way (List.mem_reverse.mp member)
  fun_induction machine.follow point steps stack seen waiting with
  | case1 | case2 => exact ⟨turned kept, nofun⟩
  | case3 _ index others _ _ _ ih =>
      exact ih sized (fun way member => stacked way (List.mem_cons_of_mem _ member)) kept
  | case4 _ index others _ _ fresh ends =>
      have stands := stands_of_unseen sized fresh
      rw [ends] at stands
      exact ⟨turned kept, fun _ => stacked index List.mem_cons_self 0 point (.accept stands)⟩
  | case5 _ index others _ _ fresh seen' set next takes ih =>
      have stands := stands_of_unseen sized fresh
      rw [takes] at stands
      obtain ⟨first, rest⟩ := List.forall_mem_cons.mp stacked
      exact ih (by rwa [Array.size_setIfInBounds]) rest
        (List.forall_mem_cons.mpr ⟨⟨⟨set, next, stands⟩, first⟩, kept⟩)
  | case6 _ index others _ _ fresh seen' look next asks ih =>
      have stands := stands_of_unseen sized fresh
      rw [asks] at stands
      obtain ⟨first, rest⟩ := List.forall_mem_cons.mp stacked
      refine ih (by rwa [Array.size_setIfInBounds]) ?_ kept
      split
      · rename_i holds
        exact List.forall_mem_cons.mpr
          ⟨fun moves last accepts => first _ _ (.check stands holds accepts), rest⟩
      · exact rest
  | case7 _ index others _ _ fresh seen' left right forks ih =>
      have stands := stands_of_unseen sized fresh
      rw [forks] at stands
      obtain ⟨first, rest⟩ := List.forall_mem_cons.mp stacked
      refine ih (by rwa [Array.size_setIfInBounds]) ?_ kept
      exact List.forall_mem_cons.mpr ⟨fun moves last accepts => first _ _ (.first stands accepts),
        List.forall_mem_cons.mpr ⟨fun moves last accepts => first _ _ (.second stands accepts), rest⟩⟩

def Known (stack : List Nat) (seen : Array Bool) (index : Nat) : Prop :=
  index ∈ stack ∨ seen[index]? = some true

/-- Whatever is accepted behind a marked instruction is accepted behind one that waits, or in fewer moves
behind one that is marked or will be followed. -/
def Settled (code : Array Instruction) (point : Point) (stack : List Nat) (seen : Array Bool)
    (waiting : List Nat) : Prop :=
  ∀ index, seen[index]? = some true → ∀ moves last, Accepts code moves index point last →
    (∃ way ∈ waiting, ∃ more, Accepts code more way point last) ∨
      ∃ other, Known stack seen other ∧ ∃ fewer < moves, Accepts code fewer other point last

def unseen (seen : Array Bool) : Nat := seen.count false

theorem marked_or_beyond {index : Nat} (passed : seen.getD index true = true) :
    seen[index]? = some true ∨ seen.size ≤ index := by
  rcases Nat.lt_or_ge index seen.size with inside | beyond
  · rw [Array.getD_eq_getD_getElem?, Array.getElem?_eq_getElem inside, Option.getD_some] at passed
    exact .inl (passed ▸ Array.getElem?_eq_getElem inside)
  · exact .inr beyond

theorem unseen_mark {index : Nat} (fresh : ¬ seen.getD index true = true) :
    unseen (seen.setIfInBounds index true) + 1 = unseen seen := by
  have inside := lt_of_fresh fresh
  rw [Array.getD_eq_getD_getElem?, Array.getElem?_eq_getElem inside, Option.getD_some,
    Bool.not_eq_true] at fresh
  have some : 0 < seen.count false := Array.count_pos_iff.mpr (fresh ▸ Array.getElem_mem inside)
  unfold unseen Array.setIfInBounds
  rw [dif_pos inside, Array.count_set, fresh]
  show seen.count false - 1 + 0 + 1 = seen.count false
  omega

theorem Settled.finished {code : Array Instruction} (settled : Settled code point [] seen waiting)
    {index moves : Nat} {last : Point} (known : Known [] seen index)
    (accepts : Accepts code moves index point last) :
    ∃ way ∈ waiting.reverse, ∃ more, Accepts code more way point last := by
  induction moves using Nat.strongRecOn generalizing index with
  | _ moves ih =>
      rcases known with listed | marked
      · contradiction
      · rcases settled index marked moves last accepts with
          ⟨way, member, rest⟩ | ⟨other, known, fewer, less, rest⟩
        · exact ⟨way, List.mem_reverse.mpr member, rest⟩
        · exact ih fewer less known rest

/-- What holds while ways are followed: there are marks for the instructions of the machine, there are
steps enough, and marked instructions are settled. -/
structure Followed (machine : Machine) (point : Point) (steps : Nat) (stack : List Nat)
    (seen : Array Bool) (waiting : List Nat) : Prop where
  sized : seen.size = machine.code.size
  enough : stack.length + 2 * unseen seen ≤ steps
  settled : Settled machine.code point stack seen waiting

section Step

variable {index : Nat} {others kept : List Nat}

theorem Known.mark (added : List Nat) {other : Nat} (fresh : ¬ seen.getD index true = true)
    (known : Known (index :: others) seen other) :
    Known (added ++ others) (seen.setIfInBounds index true) other := by
  unfold Known at known ⊢
  rw [Array.getElem?_setIfInBounds, if_pos (lt_of_fresh fresh)]
  by_cases same : index = other
  · exact .inr (if_pos same)
  · rw [if_neg same]
    refine known.imp_left fun listed => List.mem_append_right _ ?_
    exact (List.mem_cons.mp listed).resolve_left (Ne.symm same)

/-- An instruction is marked that was not, and what it leads to is followed or waits. -/
theorem Followed.mark (added : List Nat)
    (followed : Followed machine point (steps + 1) (index :: others) seen waiting)
    (fresh : ¬ seen.getD index true = true) (few : added.length ≤ 2) (more : waiting ⊆ kept)
    (here : ∀ moves last, Accepts machine.code moves index point last →
      index ∈ kept ∨ ∃ other ∈ added, ∃ fewer < moves, Accepts machine.code fewer other point last) :
    Followed machine point steps (added ++ others) (seen.setIfInBounds index true) kept := by
  constructor
  case sized => rw [Array.size_setIfInBounds, followed.sized]
  case enough =>
    have enough := followed.enough
    have fewer := unseen_mark fresh
    rw [List.length_cons] at enough
    rw [List.length_append]
    omega
  case settled =>
    intro next marked moves last accepts
    rw [Array.getElem?_setIfInBounds, if_pos (lt_of_fresh fresh)] at marked
    by_cases same : index = next
    · subst same
      rcases here moves last accepts with waits | ⟨other, listed, rest⟩
      · exact .inl ⟨index, waits, moves, accepts⟩
      · exact .inr ⟨other, .inl (List.mem_append_left _ listed), rest⟩
    · rw [if_neg same] at marked
      rcases followed.settled next marked moves last accepts with ⟨way, waits, rest⟩ | ⟨other, known, rest⟩
      · exact .inl ⟨way, more waits, rest⟩
      · exact .inr ⟨other, known.mark added fresh, rest⟩

/-- An instruction that was passed over is marked, or is none of the machine. -/
theorem Followed.known
    (followed : Followed machine point (steps + 1) (index :: others) seen waiting)
    (passed : seen.getD index true = true) {other moves : Nat} {last : Point}
    (known : Known (index :: others) seen other) (accepts : Accepts machine.code moves other point last) :
    Known others seen other := by
  rcases known with listed | marked
  · rcases List.mem_cons.mp listed with rfl | listed
    · rcases marked_or_beyond passed with marked | beyond
      · exact .inr marked
      · exact absurd (accepts_lt accepts) (Nat.not_lt_of_le (followed.sized ▸ beyond))
    · exact .inl listed
  · exact .inr marked

theorem Followed.skip
    (followed : Followed machine point (steps + 1) (index :: others) seen waiting)
    (passed : seen.getD index true = true) : Followed machine point steps others seen waiting := by
  refine ⟨followed.sized, ?_, fun next marked moves last accepts => ?_⟩
  · have enough := followed.enough
    rw [List.length_cons] at enough
    omega
  · exact (followed.settled next marked moves last accepts).imp_right
      fun ⟨other, known, fewer, less, rest⟩ =>
        ⟨other, followed.known passed known rest, fewer, less, rest⟩

end Step

/-- Whatever the ways accept that lead to a point, something that is open there accepts, unless an
occurrence ends there. -/
theorem follow_complete (followed : Followed machine point steps stack seen waiting) :
    (machine.follow point steps stack seen waiting).accepted = true ∨
      ∀ index, Known stack seen index → Serves machine.code point
        (machine.follow point steps stack seen waiting).waiting index := by
  fun_induction machine.follow point steps stack seen waiting with
  | case1 stack seen waiting =>
      have enough := followed.enough
      obtain rfl : stack = [] := List.length_eq_zero_iff.mp (by omega)
      exact .inr fun index known moves last => followed.settled.finished known
  | case2 => exact .inr fun index known moves last => followed.settled.finished known
  | case3 steps index others seen waiting passed ih =>
      refine (ih (followed.skip passed)).imp_right fun all other known moves last accepts => ?_
      exact all other (followed.known passed known accepts) moves last accepts
  | case4 => exact .inl rfl
  | case5 steps index others seen waiting fresh seen' set next takes ih =>
      refine (ih (followed.mark [] fresh (Nat.zero_le _) (List.subset_cons_self ..) ?_)).imp_right
        fun all other known => all other (known.mark [] fresh)
      exact fun moves last accepts => .inl List.mem_cons_self
  | case6 steps index others seen waiting fresh seen' look next asks ih =>
      have stands := stands_of_unseen followed.sized fresh
      rw [asks] at stands
      by_cases holds : look.holds point = true
      · rw [if_pos holds] at ih ⊢
        refine (ih (followed.mark [next] fresh (by simp) (List.Subset.refl _) ?_)).imp_right
          fun all other known => all other (known.mark [next] fresh)
        intro moves last accepts
        obtain ⟨-, fewer, rfl, later⟩ := (accepts_check stands).mp accepts
        exact .inr ⟨next, List.mem_singleton_self _, fewer, Nat.lt_succ_self _, later⟩
      · rw [if_neg holds] at ih ⊢
        refine (ih (followed.mark [] fresh (Nat.zero_le _) (List.Subset.refl _) ?_)).imp_right
          fun all other known => all other (known.mark [] fresh)
        exact fun moves last accepts => absurd ((accepts_check stands).mp accepts).1 holds
  | case7 steps index others seen waiting fresh seen' left right forks ih =>
      have stands := stands_of_unseen followed.sized fresh
      rw [forks] at stands
      refine (ih (followed.mark [left, right] fresh (Nat.le_refl _) (List.Subset.refl _) ?_)).imp_right
        fun all other known => all other (known.mark [left, right] fresh)
      intro moves last accepts
      obtain ⟨fewer, rfl, later | later⟩ := (accepts_fork stands).mp accepts
      · exact .inr ⟨left, by simp, fewer, Nat.lt_succ_self _, later⟩
      · exact .inr ⟨right, by simp, fewer, Nat.lt_succ_self _, later⟩

end Following

section Running

variable {machine : Machine} {ways : List Nat} {taken length : Nat} {best : Option Nat}

theorem openAt_sound (machine : Machine) (point : Point) (ways : List Nat) :
    (∀ way ∈ (machine.openAt point ways).waiting,
      Takes machine.code way ∧ Serves machine.code point ways way) ∧
    ((machine.openAt point ways).accepted = true →
      ∃ way ∈ ways, ∃ moves, Accepts machine.code moves way point point) :=
  follow_sound Array.size_replicate (fun way listed moves _ accepts => ⟨way, listed, moves, accepts⟩) nofun

theorem openAt_complete (machine : Machine) (point : Point) (ways : List Nat) :
    (machine.openAt point ways).accepted = true ∨
      ∀ way ∈ ways, Serves machine.code point (machine.openAt point ways).waiting way := by
  have followed : Followed machine point (ways.length + 2 * machine.code.size + 1) ways
      (Array.replicate machine.code.size false) [] := by
    refine ⟨Array.size_replicate, ?_, fun index marked => ?_⟩
    · unfold unseen
      rw [Array.count_replicate_self]
      exact Nat.le_succ _
    · rw [Array.getElem?_replicate] at marked
      split at marked <;> simp at marked
  exact (follow_complete followed).imp_right fun all way listed => all way (.inl listed)

theorem after_eq_some {character : Char} {index next : Nat} :
    machine.after? character index = some next ↔
      ∃ set, machine.code[index]? = some (.consume set next) ∧ set.contains character = true := by
  unfold after?
  rw [Array.getD_eq_getD_getElem?]
  cases stands : machine.code[index]? with
  | none => simp
  | some instruction => cases instruction <;> simp [and_comm]

/-- The best length at a point is the one from before, or an occurrence ends there. -/
theorem best_sound {point : Point}
    (found : (if (machine.openAt point ways).accepted = true then some taken else best) = some length) :
    best = some length ∨
      length = taken ∧ ∃ way ∈ ways, ∃ moves, Accepts machine.code moves way point point := by
  split at found
  · rename_i accepted
    exact .inr ⟨(Option.some.inj found).symm, (openAt_sound ..).2 accepted⟩
  · exact .inl found

theorem run_sound {before : Option Char} {text : List Char}
    (ran : machine.run ways taken best before text = some length) : best = some length ∨
      ∃ more ≤ text.length, length = taken + more ∧ ∃ way ∈ ways, ∃ moves,
        Accepts machine.code moves way ⟨before, text⟩ (Point.behind ⟨before, text⟩ more) := by
  induction text generalizing ways taken best before with
  | nil =>
      rw [run] at ran
      exact (best_sound ran).imp_right fun ⟨same, ends⟩ => ⟨0, Nat.zero_le _, same, ends⟩
  | cons character rest ih =>
      rw [run] at ran
      split at ran
      · exact (best_sound ran).imp_right fun ⟨same, ends⟩ => ⟨0, Nat.zero_le _, same, ends⟩
      · rcases ih ran with found | ⟨more, short, rfl, way, listed, moves, accepts⟩
        · exact (best_sound found).imp_right fun ⟨same, ends⟩ => ⟨0, Nat.zero_le _, same, ends⟩
        · obtain ⟨first, waits, next⟩ := List.mem_filterMap.mp listed
          obtain ⟨set, stands, member⟩ := after_eq_some.mp next
          refine .inr ⟨more + 1, Nat.succ_le_succ short, by omega, ?_⟩
          rw [Point.behind_cons]
          exact ((openAt_sound ..).1 first waits).2 _ _ (.consume stands member accepts)

/-- What one of the ways comes to is behind an instruction that takes the next character, unless an
occurrence ends at once. -/
theorem openAt_takes {point last : Point} {way moves : Nat}
    (unaccepted : ¬ (machine.openAt point ways).accepted = true) (listed : way ∈ ways)
    (accepts : Accepts machine.code moves way point last) :
    ∃ character rest, point.rest = character :: rest ∧
      ∃ next ∈ (machine.openAt point ways).waiting.filterMap (machine.after? character),
        ∃ more, Accepts machine.code more next ⟨some character, rest⟩ last := by
  obtain ⟨serves, waits, more, later⟩ :=
    ((openAt_complete ..).resolve_left unaccepted) way listed moves last accepts
  obtain ⟨set, next, stands⟩ := ((openAt_sound ..).1 serves waits).1
  obtain ⟨character, rest, fewer, ahead, member, -, behind⟩ := (accepts_consume stands).mp later
  exact ⟨character, rest, ahead, next,
    List.mem_filterMap.mpr ⟨serves, waits, after_eq_some.mpr ⟨set, stands, member⟩⟩, fewer, behind⟩

/-- A run finds an occurrence where one was found before, or where one of the ways comes to one. -/
theorem run_complete {before : Option Char} {text : List Char}
    (found : best.isSome = true ∨ ∃ way ∈ ways, ∃ moves last,
      Accepts machine.code moves way ⟨before, text⟩ last) :
    (machine.run ways taken best before text).isSome = true := by
  induction text generalizing ways taken best before with
  | nil =>
      rw [run]
      split
      · rfl
      · rename_i unaccepted
        refine found.elim id fun ⟨way, listed, moves, last, accepts⟩ => ?_
        obtain ⟨_, _, ahead, -⟩ := openAt_takes unaccepted listed accepts
        contradiction
  | cons character rest ih =>
      rw [run]
      by_cases accepted : (machine.openAt ⟨before, character :: rest⟩ ways).accepted = true
      · rw [if_pos accepted]
        split
        · rfl
        · exact ih (.inl rfl)
      · rw [if_neg accepted]
        rcases found with known | ⟨way, listed, moves, last, accepts⟩
        · split
          · exact known
          · exact ih (.inl known)
        · obtain ⟨_, _, ahead, next, goes, more, later⟩ := openAt_takes accepted listed accepts
          obtain ⟨rfl, rfl⟩ := List.cons.inj ahead
          rw [if_neg (by simpa using List.ne_nil_of_mem goes)]
          exact ih (.inr ⟨next, goes, more, last, later⟩)

end Running

/-- A machine finds an occurrence of its expression where one begins, and only there. -/
theorem lengthAt_ofExpr (expr : Expr) (point : Point) :
    (∀ length, (ofExpr expr).lengthAt? point = some length →
      length ≤ point.rest.length ∧ expr.Occurs point (point.behind length)) ∧
    ((ofExpr expr).lengthAt? point = none ↔ ∀ last, ¬ expr.Occurs point last) := by
  have found {length : Nat} (ran : (ofExpr expr).lengthAt? point = some length) :
      length ≤ point.rest.length ∧ expr.Occurs point (point.behind length) := by
    rcases run_sound ran with earlier | ⟨more, short, rfl, way, listed, moves, accepts⟩
    · contradiction
    · obtain rfl := List.mem_singleton.mp listed
      rw [Nat.zero_add]
      exact ⟨short, (ofExpr_accepts expr).mp ⟨moves, accepts⟩⟩
  refine ⟨fun _ => found, fun none last occurs => ?_, fun nowhere => ?_⟩
  · obtain ⟨moves, accepts⟩ := (ofExpr_accepts expr).mpr occurs
    have ran : ((ofExpr expr).lengthAt? point).isSome = true :=
      run_complete (.inr ⟨_, List.mem_singleton_self _, moves, last, accepts⟩)
    rw [none] at ran
    contradiction
  · cases ran : (ofExpr expr).lengthAt? point with
    | none => rfl
    | some length => exact absurd (found ran).2 (nowhere _)

end UiContract.Regex.Machine

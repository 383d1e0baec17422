import UiContract.CommandLine.Parsing

/-!
What a command line asks for, apart from how the answer is shown. While words are read only little has
to be known to tell it: what was asked for so far and which argument waits for its value. Arguments that
choose the form of the answer change nothing of that, wherever they stand.
-/
namespace UiContract.CommandLine

structure Request where
  root : String
  config : Option String
  strict : Bool
  checks : List Check
deriving DecidableEq, Repr

def Settings.request (settings : Settings) : Request :=
  { root := settings.root, config := settings.config, strict := settings.strict,
    checks := settings.checks }

def Request.adding (request : Request) (argument : Argument) (value : Option String) : Request :=
  match argument, value with
  | .root, some path => { request with root := path }
  | .config, some path => { request with config := some path }
  | .check, some name => { request with checks := request.checks ++ (Check.ofName? name).toList }
  | .strict, _ => { request with strict := true }
  | _, _ => request

structure View where
  request : Request
  waiting : Option Argument := none
deriving DecidableEq, Repr

def View.next (view : View) (word : String) : View :=
  match word.toList with
  | ['-', '-'] => view
  | '-' :: '-' :: rest =>
      let (name, value) := Parsing.splitValue rest
      match Argument.ofLongName? name with
      | none => view
      | some argument =>
          if argument.valueName?.isSome && value.isNone then { view with waiting := some argument }
          else { view with request := view.request.adding argument value }
  | '-' :: _ :: _ => view
  | _ =>
      match view.waiting with
      | none => view
      | some argument => { request := view.request.adding argument (some word) }

theorem View.next_long (view : View) (word : String) (rest : List Char)
    (long : word.toList = '-' :: '-' :: rest) (some_ : rest ≠ []) (argument : Argument)
    (named : Argument.ofLongName? (Parsing.splitValue rest).1 = some argument) :
    view.next word = if argument.valueName?.isSome && (Parsing.splitValue rest).2.isNone then
        { view with waiting := some argument }
      else { view with request := view.request.adding argument (Parsing.splitValue rest).2 } := by
  unfold View.next
  split
  · rename_i hyphens
    rw [long] at hyphens
    exact absurd (List.cons.inj (List.cons.inj hyphens).2).2 some_
  · rename_i others lone same
    rw [long] at same
    obtain rfl := (List.cons.inj (List.cons.inj same).2).2
    dsimp only
    rw [named]
  · rename_i letter others lone apart same
    rw [long] at same
    exact absurd (List.cons.inj (List.cons.inj same).2).1.symm apart
  · rename_i plain
    exact absurd long (plain '-' rest)

namespace Parsing

/-- What a reading of words shows. The argument that is pending counts as taken where it has its value. -/
inductive Shows (parsing : Parsing) : View → Prop where
  | free (none : parsing.pending = none) : Shows parsing { request := parsing.settings.request }
  | valued (argument : Argument) (value : String)
      (held : parsing.pending = some (argument, some value)) :
      Shows parsing { request := parsing.settings.request.adding argument (some value) }
  | waiting (argument : Argument) (takes : argument.valueName?.isSome = true)
      (held : parsing.pending = some (argument, none)) :
      Shows parsing { request := parsing.settings.request, waiting := some argument }

variable {parsing taken : Parsing} {view : View}

theorem bind_ok {α β : Type} {first : Except Stop α} {next : α → Except Stop β} {result : β}
    (done : (first >>= next) = .ok result) : ∃ value, first = .ok value ∧ next value = .ok result := by
  cases read : first with
  | error stop =>
      rw [read] at done
      exact nomatch done
  | ok value =>
      rw [read] at done
      exact ⟨value, rfl, done⟩

theorem note_settings (argument : Argument) (parsing : Parsing) :
    (parsing.note argument).settings = parsing.settings := by
  unfold note
  split <;> rfl

theorem note_pending (argument : Argument) (parsing : Parsing) :
    (parsing.note argument).pending = parsing.pending := by
  unfold note
  split <;> rfl

theorem once_ok (argument : Argument) (change : Settings → Settings)
    (done : parsing.once argument change = (taken, none)) :
    taken.settings = change parsing.settings ∧ taken.pending = parsing.pending := by
  unfold once at done
  split at done
  · exact nomatch (Prod.mk.inj done).2
  · rw [← (Prod.mk.inj done).1]
    exact ⟨congrArg change (note_settings argument parsing), note_pending argument parsing⟩

theorem withPath_ok (argument : Argument) (change : String → Settings → Settings)
    (value : Option String) (done : parsing.withPath argument change value = (taken, none)) :
    ∃ path, value = some path ∧ taken.settings = change path parsing.settings ∧
      taken.pending = parsing.pending := by
  cases value with
  | none => exact nomatch (Prod.mk.inj done).2
  | some path =>
      refine ⟨path, rfl, ?_⟩
      unfold withPath at done
      dsimp only at done
      split at done
      · rename_i kept first
        split at done
        · exact nomatch (Prod.mk.inj done).2
        · rw [← (Prod.mk.inj done).1]
          exact once_ok argument (change path) first
      · rename_i stopped
        exact absurd done (stopped taken)

/-- An argument that was taken is part of the request, and it had a value if it needs one. -/
theorem store_ok (argument : Argument) (value : Option String)
    (done : parsing.store argument value = (taken, none)) :
    taken.settings.request = parsing.settings.request.adding argument value ∧
      taken.pending = parsing.pending ∧ (argument.valueName?.isSome = true → value.isSome = true) := by
  cases argument with
  | root =>
      obtain ⟨path, rfl, settings, pending⟩ := withPath_ok .root _ value done
      exact ⟨by rw [settings]; rfl, pending, fun _ => rfl⟩
  | config =>
      obtain ⟨path, rfl, settings, pending⟩ := withPath_ok .config _ value done
      exact ⟨by rw [settings]; rfl, pending, fun _ => rfl⟩
  | why =>
      obtain ⟨path, rfl, settings, pending⟩ := withPath_ok .why _ value done
      exact ⟨by rw [settings]; rfl, pending, fun _ => rfl⟩
  | check =>
      cases value with
      | none => exact nomatch (Prod.mk.inj done).2
      | some name =>
          unfold store at done
          dsimp only at done
          split at done
          · exact nomatch (Prod.mk.inj done).2
          · rename_i check named
            rw [← (Prod.mk.inj done).1]
            refine ⟨?_, note_pending .check parsing, fun _ => rfl⟩
            simp only [setting, note_settings, Settings.request, Request.adding, named,
              Option.toList_some]
  | strict =>
      obtain ⟨settings, pending⟩ := once_ok .strict _ done
      exact ⟨by rw [settings]; rfl, pending, nofun⟩
  | json =>
      obtain ⟨settings, pending⟩ := once_ok .json _ done
      exact ⟨by rw [settings]; rfl, pending, nofun⟩
  | verbose =>
      obtain ⟨settings, pending⟩ := once_ok .verbose _ done
      exact ⟨by rw [settings]; rfl, pending, nofun⟩
  | quiet =>
      obtain ⟨settings, pending⟩ := once_ok .quiet _ done
      exact ⟨by rw [settings]; rfl, pending, nofun⟩
  | help => exact nomatch (Prod.mk.inj done).2
  | version => exact nomatch (Prod.mk.inj done).2

theorem settle_ok (shows : parsing.Shows view) (done : parsing.settle = (taken, none)) :
    taken.settings.request = view.request ∧ taken.pending = none ∧ view.waiting = none := by
  unfold settle at done
  cases shows with
  | free none =>
      rw [none] at done
      obtain rfl := (Prod.mk.inj done).1
      exact ⟨rfl, none, rfl⟩
  | valued argument value held =>
      rw [held] at done
      obtain ⟨request, pending, -⟩ := store_ok argument (some value) done
      exact ⟨request, pending, rfl⟩
  | waiting argument takes held =>
      rw [held] at done
      obtain ⟨-, -, needs⟩ := store_ok argument none done
      exact nomatch needs takes

theorem orStop_ok {result : Parsing × Option Stop} (done : orStop result = .ok taken) :
    result = (taken, none) := by
  obtain ⟨parsing, stop⟩ := result
  cases stop with
  | none => rw [Except.ok.inj done]
  | some stop => exact nomatch done

theorem take_ok (shows : parsing.Shows view) (argument : Argument) (value : Option String)
    (done : parsing.take argument value = .ok taken) :
    taken.Shows { request := view.request.adding argument value } ∧ view.waiting = none := by
  unfold take at done
  obtain ⟨middle, settled, done⟩ := bind_ok done
  obtain ⟨request, free, unhindered⟩ := settle_ok shows (orStop_ok settled)
  obtain ⟨added, pending, -⟩ := store_ok argument value (orStop_ok done)
  rw [← request, ← added]
  exact ⟨.free (pending.trans free), unhindered⟩

theorem takeLong_ok (shows : parsing.Shows view) (name : String) (value : Option String)
    (done : parsing.takeLong name value = .ok taken) :
    ∃ argument, Argument.ofLongName? name = some argument ∧ view.waiting = none ∧
      taken.Shows (if argument.valueName?.isSome && value.isNone then
          { view with waiting := some argument }
        else { view with request := view.request.adding argument value }) := by
  unfold takeLong at done
  cases named : Argument.ofLongName? name with
  | none =>
      rw [named] at done
      exact nomatch done
  | some argument =>
      rw [named] at done
      dsimp only at done
      refine ⟨argument, rfl, ?_⟩
      cases called : argument.valueName? with
      | none =>
          rw [called] at done
          cases value with
          | none =>
              obtain ⟨shown, free⟩ := take_ok shows argument none done
              rw [if_neg (by simp), free]
              exact ⟨rfl, shown⟩
          | some value => exact nomatch done
      | some called' =>
          rw [called] at done
          cases value with
          | some value =>
              obtain ⟨shown, free⟩ := take_ok shows argument (some value) done
              rw [if_neg (by simp), free]
              exact ⟨rfl, shown⟩
          | none =>
              obtain ⟨middle, settled, done⟩ := bind_ok done
              obtain ⟨request, -, free⟩ := settle_ok shows (orStop_ok settled)
              rw [if_pos (by simp), ← request, ← Except.ok.inj done]
              exact ⟨free, .waiting argument (by rw [called]; rfl) rfl⟩

theorem adding_letter (request : Request) (letter : Char) (argument : Argument)
    (named : Argument.ofLetter? letter = some argument) :
    request.adding argument none = request := by
  have listed := List.find?_some named
  cases argument <;> first
    | rfl
    | exact absurd listed (by simp [Argument.letter?])

theorem takeLetters_ok (letters : List Char) (some_ : letters ≠ []) (shows : parsing.Shows view)
    (done : takeLetters letters parsing = .ok taken) : view.waiting = none ∧ taken.Shows view := by
  induction letters generalizing parsing with
  | nil => contradiction
  | cons letter rest ih =>
      unfold takeLetters at done
      cases named : Argument.ofLetter? letter with
      | none =>
          rw [named] at done
          exact nomatch done
      | some argument =>
          rw [named] at done
          obtain ⟨middle, first, done⟩ := bind_ok done
          obtain ⟨shown, free⟩ := take_ok shows argument none first
          rw [adding_letter view.request letter argument named] at shown
          have same : ({ request := view.request } : View) = view := by
            rw [← free]
          rw [same] at shown
          refine ⟨free, ?_⟩
          cases rest with
          | nil =>
              rw [← Except.ok.inj done]
              exact shown
          | cons second more => exact (ih (List.cons_ne_nil _ _) shown done).2

/-- Whatever else a word does to a reading, of the request it changes what the view says. -/
theorem next_ok (shows : parsing.Shows view) (word : String) (done : parsing.next word = .ok taken) :
    taken.Shows (view.next word) := by
  unfold next at done
  split at done
  · unfold refuse at done
    contradiction
  · split at done
    · rename_i hyphens
      unfold View.next
      rw [hyphens, ← Except.ok.inj done]
      cases shows with
      | free none => exact .free none
      | valued argument value held => exact .valued argument value held
      | waiting argument takes held => exact .waiting argument takes held
    · rename_i rest lone long
      have read : ∃ argument, Argument.ofLongName? (splitValue rest).1 = some argument ∧
          view.waiting = none ∧ taken.Shows
            (if argument.valueName?.isSome && (splitValue rest).2.isNone then
              { view with waiting := some argument }
            else { view with request := view.request.adding argument (splitValue rest).2 }) :=
        takeLong_ok shows _ _ done
      obtain ⟨argument, named, -, shown⟩ := read
      rw [View.next_long view word rest long lone argument named]
      exact shown
    · rename_i letter rest lone apart short
      have shown := (takeLetters_ok (letter :: rest) (List.cons_ne_nil _ _) shows done).2
      unfold View.next
      split
      · exact shown
      · rename_i others same
        rw [short] at same
        exact absurd (List.cons.inj (List.cons.inj same).2).1 apart
      · exact shown
      · rename_i plain
        exact absurd short (plain letter rest)
    · rename_i plain
      unfold View.next
      split
      · rename_i same
        exact absurd same (plain '-' [])
      · rename_i others lone same
        exact absurd same (plain '-' others)
      · rename_i letter others lone apart same
        exact absurd same (plain letter others)
      · split at done
        · rename_i argument held
          rw [← Except.ok.inj done]
          cases shows with
          | free none =>
              rw [none] at held
              contradiction
          | valued other value held' =>
              rw [held'] at held
              have missing := (Prod.mk.inj (Option.some.inj held)).2
              contradiction
          | waiting other takes held' =>
              rw [held'] at held
              obtain ⟨rfl, -⟩ := Prod.mk.inj (Option.some.inj held)
              exact .valued other word rfl
        · unfold refuse at done
          contradiction

def Accepts (parsing : Parsing) (words : List String) (settings : Settings) : Prop :=
  (words.foldlM next parsing >>= finish) = .ok settings

theorem accepts_cons {word : String} {rest : List String} {settings : Settings}
    (accepts : parsing.Accepts (word :: rest) settings) :
    ∃ taken : Parsing, parsing.next word = .ok taken ∧ taken.Accepts rest settings := by
  unfold Accepts at accepts ⊢
  rw [List.foldlM_cons, bind_assoc] at accepts
  exact bind_ok accepts

theorem finish_ok {settings : Settings} (shows : parsing.Shows view)
    (done : parsing.finish = .ok settings) :
    settings.request = view.request ∧ view.waiting = none := by
  unfold finish at done
  obtain ⟨taken, settled, done⟩ := bind_ok done
  obtain ⟨request, -, free⟩ := settle_ok shows (orStop_ok settled)
  refine ⟨?_, free⟩
  rw [← request]
  dsimp only at done
  split at done
  · exact nomatch done
  · rw [← Except.ok.inj done]

theorem accepts_waiting {rest : List String} {settings : Settings} {word : String}
    (argument : Argument) (takes : argument.valueName?.isSome = true)
    (held : parsing.pending = some (argument, none))
    (accepts : parsing.Accepts (word :: rest) settings) :
    ∃ taken : Parsing, taken.Shows { request := parsing.settings.request.adding argument (some word) } ∧
      taken.Accepts rest settings := by
  have shows : parsing.Shows { request := parsing.settings.request, waiting := some argument } :=
    .waiting argument takes held
  obtain ⟨taken, first, others⟩ := accepts_cons accepts
  unfold next at first
  split at first
  · exact nomatch first
  · split at first
    · -- Behind two hyphens nothing more is taken, and the argument waits in vain.
      obtain rfl := Except.ok.inj first
      exfalso
      cases rest with
      | nil =>
          have late : Shows { parsing with trailing := true }
              { request := parsing.settings.request, waiting := some argument } :=
            .waiting argument takes held
          exact nomatch (finish_ok late others).2
      | cons second more =>
          obtain ⟨_, second, -⟩ := accepts_cons others
          unfold next at second
          rw [if_pos rfl] at second
          exact nomatch second
    · obtain ⟨-, -, free, -⟩ := takeLong_ok shows _ _ first
      exact nomatch free
    · have free := (takeLetters_ok _ (List.cons_ne_nil _ _) shows first).1
      exact nomatch free
    · rw [held] at first
      dsimp only at first
      refine ⟨taken, ?_, others⟩
      rw [← Except.ok.inj first]
      exact .valued argument word rfl

end Parsing

inductive Addition : List String → Prop where
  | json : Addition ["--json"]
  | verbose : Addition ["--verbose"]
  | v : Addition ["-v"]
  | quiet : Addition ["--quiet"]
  | q : Addition ["-q"]
  | why (path : String) : Addition ["--why", path]
  | whyValue (path : String) : Addition ["--why=" ++ path]

/-- Two command lines that differ in nothing but words that choose the form of the answer. -/
inductive Rephrases : List String → List String → Prop where
  | nil : Rephrases [] []
  | keep (word : String) {words others : List String} : Rephrases words others →
      Rephrases (word :: words) (word :: others)
  | adding {extra words others : List String} : Addition extra → Rephrases words others →
      Rephrases words (extra ++ others)
  | removing {extra words others : List String} : Addition extra → Rephrases words others →
      Rephrases (extra ++ words) others

theorem splitValue_why (path : List Char) :
    Parsing.splitValue ('w' :: 'h' :: 'y' :: '=' :: path) = ("why", some (String.ofList path)) := by
  have name : ('w' :: 'h' :: 'y' :: '=' :: path).takeWhile (· != '=') = ['w', 'h', 'y'] := by
    simp
  unfold Parsing.splitValue
  rw [name]
  simp

theorem next_whyValue (view : View) (path : String) : view.next ("--why=" ++ path) = view := by
  have letters : ("--why=" ++ path).toList = '-' :: '-' :: 'w' :: 'h' :: 'y' :: '=' :: path.toList := by
    simp
  have named : Argument.ofLongName? "why" = some .why := by decide
  rw [View.next_long view _ _ letters (List.cons_ne_nil _ _) .why, splitValue_why]
  · rfl
  · rw [splitValue_why]
    exact named

namespace Parsing

variable {parsing : Parsing} {view : View} {settings : Settings}

theorem accepts_addition {extra more : List String} (addition : Addition extra)
    (shows : parsing.Shows view) (accepts : parsing.Accepts (extra ++ more) settings) :
    ∃ taken : Parsing, taken.Shows view ∧ taken.Accepts more settings := by
  have single : ∀ word, view.next word = view → parsing.Accepts ([word] ++ more) settings →
      ∃ taken : Parsing, taken.Shows view ∧ taken.Accepts more settings := by
    intro word same accepts
    obtain ⟨taken, first, others⟩ := accepts_cons accepts
    have shown := next_ok shows word first
    rw [same] at shown
    exact ⟨taken, shown, others⟩
  cases addition with
  | json => exact single "--json" rfl accepts
  | verbose => exact single "--verbose" rfl accepts
  | v => exact single "-v" rfl accepts
  | quiet => exact single "--quiet" rfl accepts
  | q => exact single "-q" rfl accepts
  | whyValue path => exact single _ (next_whyValue view path) accepts
  | why path =>
      obtain ⟨middle, first, others⟩ := accepts_cons accepts
      unfold next at first
      split at first
      · exact nomatch first
      · have long : parsing.takeLong "why" none = .ok middle := first
        obtain ⟨argument, named, free, shown⟩ := takeLong_ok shows "why" none long
        obtain rfl : argument = .why := by
          rw [show Argument.ofLongName? "why" = some .why by decide] at named
          exact (Option.some.inj named).symm
        rw [if_pos (by decide)] at shown
        -- The word that follows is the value, or the command line is not accepted.
        generalize waits : ({ view with waiting := some Argument.why } : View) = waiting at shown
        cases shown with
        | free none => exact nomatch congrArg View.waiting waits
        | valued argument value held => exact nomatch congrArg View.waiting waits
        | waiting argument takes held =>
            obtain ⟨taken, shown, rest⟩ := accepts_waiting argument takes held others
            refine ⟨taken, ?_, rest⟩
            obtain ⟨request, same⟩ := View.mk.inj waits
            rw [← Option.some.inj same, ← request] at shown
            have back : ({ request := view.request } : View) = view := by
              rw [← free]
            rw [← back]
            exact shown

theorem request_rephrases {words others : List String} (rephrases : Rephrases words others)
    {first second : Parsing} {settings other : Settings} (left : first.Shows view)
    (right : second.Shows view) (accepted : first.Accepts words settings)
    (accepted' : second.Accepts others other) : settings.request = other.request := by
  induction rephrases generalizing first second view with
  | nil =>
      obtain ⟨request, -⟩ := finish_ok left accepted
      obtain ⟨request', -⟩ := finish_ok right accepted'
      rw [request, request']
  | keep word rephrases ih =>
      obtain ⟨next, taken, rest⟩ := accepts_cons accepted
      obtain ⟨next', taken', rest'⟩ := accepts_cons accepted'
      exact ih (next_ok left word taken) (next_ok right word taken') rest rest'
  | adding addition rephrases ih =>
      obtain ⟨next, shown, rest⟩ := accepts_addition addition right accepted'
      exact ih left shown accepted rest
  | removing addition rephrases ih =>
      obtain ⟨next, shown, rest⟩ := accepts_addition addition left accepted
      exact ih shown right rest accepted'

end Parsing

/-- Words that choose the form of the answer change nothing of what is asked for. -/
theorem parse_rephrases {words others : List String} (rephrases : Rephrases words others)
    {settings other : Settings} (accepted : parse words = .ok settings)
    (accepted' : parse others = .ok other) : settings.request = other.request :=
  Parsing.request_rephrases rephrases (.free rfl) (.free rfl) accepted accepted'

end UiContract.CommandLine

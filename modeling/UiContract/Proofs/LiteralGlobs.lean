import UiContract.Proofs.Encoding
import UiContract.Proofs.GlobMeaning

/-!
Globs that begin with literal pieces. A glob without wildcards matches the text that it spells. Where a
slash and more stand behind such a beginning, the reader never gives up what it has read of it: the
stars may swallow the slash, but then they ask for one themselves. So all that the glob matches begins
with what is spelled in front of the first wildcard, up to the slash before it.
-/
namespace UiContract.Glob

def IsWildcard (character : Char) : Prop :=
  character = '*' ∨ character = '?' ∨ character = '[' ∨ character = '{'

section Literals

def literals (characters : List Char) : List Token :=
  (characters.map Token.literal).reverse

theorem fits_literals (characters : List Char) (bytes : List UInt8) :
    (Pattern.sequence ((literals characters).reverse.map Token.pattern)).Fits bytes ↔
      bytes = Text.encode characters := by
  unfold literals
  rw [List.reverse_reverse, List.map_map]
  induction characters generalizing bytes with
  | nil => rfl
  | cons character rest ih =>
      rw [List.map_cons, Pattern.fits_cons, Text.encode_cons]
      simp only [ih, Function.comp_apply, Token.pattern, Pattern.fits_exactly]
      constructor
      · rintro ⟨_, _, rfl, rfl, rfl⟩
        rfl
      · rintro rfl
        exact ⟨_, _, rfl, rfl, rfl⟩

/-- Outside of groups a character that is no wildcard is read as itself, unless it closes a group that
was never opened. -/
theorem readParts_plain (character : Char) (plain : ¬ IsWildcard character) (previous : Option Char)
    (branch : List Token) (rest : List Char) {final : Reading}
    (read : readParts 0 previous ⟨branch, [], []⟩ (character :: rest) = .ok final) :
    readParts 0 (some character) ⟨.literal character :: branch, [], []⟩ rest = .ok final := by
  unfold IsWildcard at plain
  unfold readParts at read
  rw [if_neg (Nat.lt_irrefl 0)] at read
  split at read
  · exact absurd (.inr (.inl rfl)) plain
  · exact absurd (.inl rfl) plain
  · exact absurd (.inr (.inr (.inl rfl))) plain
  · exact absurd (.inr (.inr (.inr rfl))) plain
  · contradiction
  · exact read
  · exact read

theorem readParts_front (front : List Char) (plain : ∀ character ∈ front, ¬ IsWildcard character)
    (previous : Option Char) (branch : List Token) (back : List Char) {final : Reading}
    (read : readParts 0 previous ⟨branch, [], []⟩ (front ++ back) = .ok final) :
    ∃ last, readParts 0 last ⟨literals front ++ branch, [], []⟩ back = .ok final := by
  induction front generalizing previous branch with
  | nil => exact ⟨previous, read⟩
  | cons character front ih =>
      obtain ⟨first, others⟩ := List.forall_mem_cons.mp plain
      obtain ⟨last, read'⟩ := ih others _ _ (readParts_plain character first previous branch _ read)
      refine ⟨last, ?_⟩
      rwa [literals, List.map_cons, List.reverse_cons, List.append_assoc]

theorem parse_plain (glob : List Char) (plain : ∀ character ∈ glob, ¬ IsWildcard character)
    {pattern : Pattern} (parsed : parse glob = .ok pattern) (bytes : List UInt8) :
    pattern.Fits bytes ↔ bytes = Text.encode glob := by
  unfold parse at parsed
  split at parsed
  · contradiction
  · rename_i final read
    rw [← List.append_nil glob] at read
    obtain ⟨last, read'⟩ := readParts_front glob plain none [] [] read
    rw [List.append_nil] at read'
    obtain rfl := Except.ok.inj read'
    rw [if_neg (by simp)] at parsed
    rw [← fits_literals]
    split at parsed
    · rename_i stars
      have lone := congrArg List.reverse (show literals glob = [.recursiveStart] from stars)
      rw [literals, List.reverse_reverse] at lone
      match glob with
      | [] => contradiction
      | _ :: _ => exact nomatch (List.cons.inj lone).1
    · rw [← Except.ok.inj parsed]
      rfl

end Literals

section Fronts

def AsksSlash (token : Token) : Prop :=
  token = .literal '/' ∨ token = .recursiveEnd ∨ token = .recursiveMiddle

theorem AsksSlash.fits {token : Token} (asks : AsksSlash token) {bytes : List UInt8}
    (fits : token.pattern.Fits bytes) : ∃ rest, bytes = Text.encodeChar '/' ++ rest := by
  have slash : ∀ bytes, Pattern.slash.Fits bytes ↔ bytes = Text.encodeChar '/' :=
    Pattern.fits_exactly [0x2F]
  rcases asks with rfl | rfl | rfl
  · exact ⟨[], by rw [List.append_nil]; exact (slash bytes).mp fits⟩
  · obtain ⟨front, back, rfl, spelled, -⟩ := fits
    exact ⟨back, by rw [(slash front).mp spelled]⟩
  · rcases fits with spelled | ⟨front, back, rfl, spelled, -⟩
    · exact ⟨[], by rw [List.append_nil]; exact (slash bytes).mp spelled⟩
    · exact ⟨back, by rw [(slash front).mp spelled]⟩

def Keeps (base : List Token) (reading : Reading) : Prop :=
  ∃ more token, AsksSlash token ∧
    (reading.branch :: reading.outer).getLast? = some (more ++ token :: base)

variable {base : List Token} {reading : Reading}

theorem keeps_congr {next : Reading} (keeps : Keeps base reading)
    (same : (next.branch :: next.outer).getLast? = (reading.branch :: reading.outer).getLast?) :
    Keeps base next := by
  obtain ⟨more, token, asks, last⟩ := keeps
  exact ⟨more, token, asks, same.trans last⟩

theorem keeps_push (keeps : Keeps base reading) (token : Token) : Keeps base (reading.push token) := by
  obtain ⟨branch, outer, groups⟩ := reading
  cases outer with
  | nil =>
      obtain ⟨more, kept, asks, last⟩ := keeps
      obtain rfl := Option.some.inj last
      exact ⟨token :: more, kept, asks, rfl⟩
  | cons next outer => exact keeps_congr keeps rfl

theorem keeps_openBranch (keeps : Keeps base reading) : Keeps base reading.openBranch :=
  keeps_congr keeps rfl

theorem keeps_openGroup (keeps : Keeps base reading) : Keeps base reading.openGroup :=
  keeps_congr keeps rfl

theorem keeps_closeGroup (keeps : Keeps base reading) {next : Reading}
    (closed : reading.closeGroup = .ok next) : Keeps base next := by
  unfold Reading.closeGroup at closed
  split at closed
  · contradiction
  · rename_i outside groups opened
    dsimp only at closed
    split at closed
    · contradiction
    · rename_i branch outer dropped
      obtain rfl := Except.ok.inj closed
      -- Branches are dropped in front, so the outermost one stays.
      have last := congrArg List.getLast? dropped
      rw [List.getLast?_drop, if_neg] at last
      · have kept : Keeps base ⟨branch, outer, groups⟩ := keeps_congr keeps last.symm
        exact keeps_push kept _
      · intro none
        rw [List.drop_eq_nil_of_le none] at dropped
        contradiction

theorem keeps_replace (keeps : Keeps base reading) (last : Token) (rest : List Token)
    (written : reading.branch = last :: rest) (token : Token) (asks : AsksSlash token) :
    Keeps base { reading with branch := token :: rest } := by
  obtain ⟨branch, outer, groups⟩ := reading
  obtain rfl := written
  cases outer with
  | nil =>
      obtain ⟨more, kept, asks', held⟩ := keeps
      have whole := Option.some.inj held
      cases more with
      | nil =>
          obtain ⟨-, rfl⟩ := List.cons.inj whole
          exact ⟨[], token, asks, rfl⟩
      | cons first more =>
          obtain ⟨-, rfl⟩ := List.cons.inj whole
          exact ⟨token :: more, kept, asks', rfl⟩
  | cons next outer => exact keeps_congr keeps rfl

/-- A pair of stars takes the place of the innermost part, unless there are stars already. -/
theorem keeps_replaceLast (keeps : Keeps base reading) (token : Token) (asks : AsksSlash token) :
    Keeps base (match reading.branch with
      | .recursiveStart :: _ => reading
      | .recursiveEnd :: _ => reading
      | _ :: rest => { reading with branch := token :: rest }
      | [] => reading) := by
  split
  · exact keeps
  · exact keeps
  · exact keeps_replace keeps _ _ ‹_› token asks
  · exact keeps

theorem keeps_readStars (keeps : Keeps base reading) (previous following : Option Char) :
    Keeps base (readStars reading previous following).1 := by
  have plain : Keeps base ((reading.push .zeroOrMore).push .zeroOrMore) :=
    keeps_push (keeps_push keeps _) _
  have ends := keeps_replaceLast keeps .recursiveEnd (.inr (.inl rfl))
  have middle := keeps_replaceLast keeps .recursiveMiddle (.inr (.inr rfl))
  unfold readStars
  dsimp only
  split
  · split
    · exact keeps_push keeps _
    · exact keeps_push keeps _
    · exact plain
  · split
    · exact plain
    · split
      · exact ends
      · exact middle
      · split
        · exact ends
        · exact plain

theorem keeps_readParts (skip : Nat) (previous : Option Char) (characters : List Char)
    (keeps : Keeps base reading) {final : Reading}
    (read : readParts skip previous reading characters = .ok final) : Keeps base final := by
  -- By the characters: whatever is read next, the reading changes by one of the moves above.
  induction characters generalizing skip previous reading with
  | nil =>
      rw [readParts] at read
      rwa [← Except.ok.inj read]
  | cons character rest ih =>
      unfold readParts at read
      split at read
      · exact ih _ _ keeps read
      · split at read
        · exact ih _ _ (keeps_push keeps _) read
        · split at read
          · exact ih _ _ (keeps_readStars keeps _ _) read
          · exact ih _ _ (keeps_push keeps _) read
        · dsimp only at read
          split at read
          · contradiction
          · exact ih _ _ (keeps_push keeps _) read
        · exact ih _ _ (keeps_openGroup keeps) read
        · split at read
          · contradiction
          · rename_i next closed
            exact ih _ _ (keeps_closeGroup keeps closed) read
        · dsimp only at read
          split at read
          · exact ih _ _ (keeps_push keeps _) read
          · exact ih _ _ (keeps_openBranch keeps) read
        · exact ih _ _ (keeps_push keeps _) read

/-- What a glob matches begins with what is spelled in front of a slash before any wildcard. -/
theorem parse_front (front back : List Char) (plain : ∀ character ∈ front, ¬ IsWildcard character)
    {pattern : Pattern} (parsed : parse (front ++ '/' :: back) = .ok pattern) {bytes : List UInt8}
    (fits : pattern.Fits bytes) : ∃ rest, bytes = Text.encode (front ++ ['/']) ++ rest := by
  unfold parse at parsed
  split at parsed
  · contradiction
  · rename_i final read
    obtain ⟨last, read'⟩ := readParts_front front plain none [] ('/' :: back) read
    rw [List.append_nil] at read'
    have read'' := readParts_plain '/' (by simp [IsWildcard]) last _ back read'
    -- The slash in front of the rest is the first part that asks for one.
    have begun : Keeps (literals front) ⟨.literal '/' :: literals front, [], []⟩ :=
      ⟨[], .literal '/', .inl rfl, rfl⟩
    obtain ⟨more, token, asks, held⟩ := keeps_readParts 0 (some '/') back begun read''
    split at parsed
    · contradiction
    · rename_i closed
      have outer : final.outer = [] := by simpa using closed
      rw [outer] at held
      have branch : final.branch = more ++ token :: literals front := Option.some.inj held
      split at parsed
      · rename_i stars
        rw [branch] at stars
        -- A part that asks for a slash is no pair of stars at the beginning.
        have token_start : token ≠ .recursiveStart := by
          rcases asks with rfl | rfl | rfl <;> nofun
        cases more with
        | nil => exact absurd (List.cons.inj stars).1 token_start
        | cons first more => exact absurd (List.cons.inj stars).2 (by simp)
      · rw [← Except.ok.inj parsed, patternOf, branch, List.reverse_append, List.reverse_cons,
          List.append_assoc, List.map_append, Pattern.fits_append] at fits
        obtain ⟨_, rest, rfl, spelled, fits⟩ := fits
        rw [List.singleton_append, List.map_cons, Pattern.fits_cons] at fits
        obtain ⟨_, behind, rfl, slash, -⟩ := fits
        obtain ⟨within, rfl⟩ := asks.fits slash
        refine ⟨within ++ behind, ?_⟩
        rw [(fits_literals front _).mp spelled, Text.encode_append, Text.encode_cons]
        simp only [List.append_assoc, Text.encode, List.flatMap_nil, List.nil_append]

end Fronts

end UiContract.Glob

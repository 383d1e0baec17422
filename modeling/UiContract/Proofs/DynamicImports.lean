import UiContract.Proofs.DeclarationOrder
import UiContract.Proofs.Trimming

/-!
Calls of `import`, as `dynamic_import` reads them. A call with a string literal as its first argument
is an import of the module that the literal names, and comments between the parentheses say nothing
about that. They count as arguments all the same, so a comment in front of the literal takes its place
and the import is lost. Everywhere else comments make no difference.
-/
namespace UiContract

open Script

namespace ImportDeclaration

def spoken (call : Tree) : List Tree :=
  ((call.part? .arguments).toList.flatMap Tree.children).filter fun argument =>
    argument.isNamed && argument.kind != .comment

def givenLiteral? (call : Tree) : Option Tree :=
  if call.kind == .call && (call.part? .function).any (·.kind == .importWord) then
    (spoken call).head?.filter (·.kind == .string)
  else none

def isCommented (call : Tree) : Bool :=
  ((call.part? .arguments).bind fun arguments => arguments.children.find? Tree.isNamed).any
    (·.kind == .comment)

/-- A call is like another one but for one comment more among its arguments, behind some of them. -/
structure AddsComment (call other : Tree) (front : List Tree) : Prop where
  called : call.kind = .call
  calls : other.kind = .call
  line : other.line = call.line
  function : other.part? .function = call.part? .function
  arguments : ∃ arguments others comment back, call.part? .arguments = some arguments ∧
    other.part? .arguments = some others ∧ comment.kind = .comment ∧
    arguments.children = front ++ back ∧ others.children = front ++ comment :: back

/-- A literal names what stands between its quotes, without quotes at the ends of that. -/
def Quotes (literal : List Char) (name : String) : Prop :=
  ∃ quote inside, (quote = '"' ∨ quote = '\'') ∧ literal = quote :: (inside ++ [quote]) ∧
    name = unquote inside ∧ (Text.Bare isQuote inside → name = String.ofList inside)

section Literals

variable {text : List Char}

theorem unquote_surrounded (quote : Char) (inside : List Char)
    (kinds : quote = '"' ∨ quote = '\'') :
    unquote (quote :: (inside ++ [quote])) = unquote inside := by
  have quoted : isQuote quote = true := by
    rcases kinds with rfl | rfl <;> rfl
  exact congrArg String.ofList (Text.dropEnds_surround isQuote inside quote quote quoted quoted)

theorem quotes_unquote (literal : IsLiteral text) : Quotes text (unquote text) := by
  obtain ⟨quote, inside, kinds, rfl⟩ := literal
  rw [unquote_surrounded quote inside kinds]
  exact ⟨quote, inside, kinds, rfl, rfl, fun bare =>
    congrArg String.ofList (Text.dropEnds_of_bare isQuote inside bare)⟩

theorem unquote_of_quotes {name : String} (quotes : Quotes text name) : unquote text = name := by
  obtain ⟨quote, inside, kinds, rfl, rfl, -⟩ := quotes
  exact unquote_surrounded quote inside kinds

end Literals

section Calls

variable {call : Tree}

/-- The first of the arguments, comments aside, is the first one unless that is a comment. -/
theorem find_spoken (arguments : List Tree)
    (plain : (arguments.find? Tree.isNamed).any (·.kind == .comment) = false) :
    arguments.find? (fun argument => argument.isNamed && argument.kind != .comment) =
      arguments.find? Tree.isNamed := by
  induction arguments with
  | nil => rfl
  | cons argument rest ih =>
      rw [List.find?_cons] at plain ⊢
      rw [List.find?_cons]
      cases named : argument.isNamed with
      | false =>
          rw [named] at plain
          exact ih plain
      | true =>
          rw [named, Option.any_some] at plain
          simp [bne, plain]

theorem spoken_head {arguments : Tree} (given : call.part? .arguments = some arguments) :
    (spoken call).head? =
      arguments.children.find? fun argument => argument.isNamed && argument.kind != .comment := by
  unfold spoken
  rw [given, Option.toList_some, List.flatMap_singleton, List.head?_filter]

/-- A call of `import` is read as one where no comment stands in front of its literal. -/
theorem callsImport_iff (specifier : String) : CallsImport call specifier ↔
    isCommented call = false ∧
      ∃ literal, givenLiteral? call = some literal ∧ unquote literal.text = specifier := by
  unfold CallsImport givenLiteral? isCommented
  constructor
  · rintro ⟨kind, function, arguments, first, called, word, given, found, literal, same⟩
    have plain : (arguments.children.find? Tree.isNamed).any (·.kind == .comment) = false := by
      rw [found, Option.any_some, literal]
      rfl
    refine ⟨by rw [given]; exact plain, first, ?_, same⟩
    rw [spoken_head given, find_spoken _ plain, found]
    simp [kind, called, word, literal]
  · rintro ⟨plain, literal, said, same⟩
    split at said
    · rename_i imports
      rw [Bool.and_eq_true, beq_iff_eq, Option.any_eq_true] at imports
      obtain ⟨kind, function, called, word⟩ := imports
      obtain ⟨head, string⟩ := Option.filter_eq_some_iff.mp said
      cases given : call.part? .arguments with
      | none =>
          unfold spoken at head
          rw [given] at head
          contradiction
      | some arguments =>
          rw [given] at plain
          rw [spoken_head given, find_spoken _ plain] at head
          exact ⟨kind, function, arguments, literal, called, beq_iff_eq.mp word, rfl, head,
            beq_iff_eq.mp string, same⟩
    · contradiction

theorem givenLiteral_mem {literal : Tree} (said : givenLiteral? call = some literal) :
    literal.kind = .string ∧ literal ∈ call.nodes := by
  unfold givenLiteral? at said
  split at said
  · obtain ⟨head, string⟩ := Option.filter_eq_some_iff.mp said
    refine ⟨beq_iff_eq.mp string, ?_⟩
    have among := List.mem_of_mem_filter (List.mem_of_mem_head? head)
    obtain ⟨arguments, given, member⟩ := List.mem_flatMap.mp among
    have part := List.mem_of_find?_eq_some (Option.mem_toList.mp given)
    exact Tree.child_nodes part (Tree.child_nodes member literal.self_mem_nodes)
  · contradiction

theorem own_dynamic (node : Tree) : (own? node).filter (fun made => made.kind == .dynamic) =
    if isCommented node then none
    else (givenLiteral? node).map fun literal => ofSpecifier (unquote literal.text) node.line := by
  refine Option.ext fun declaration => ?_
  rw [Option.filter_eq_some_iff, beq_iff_eq, own_dynamic_iff]
  constructor
  · rintro ⟨specifier, calls, rfl⟩
    obtain ⟨plain, literal, said, rfl⟩ := (callsImport_iff specifier).mp calls
    simp [plain, said]
  · intro made
    split at made
    · contradiction
    · rename_i plain
      obtain ⟨literal, said, rfl⟩ := Option.map_eq_some_iff.mp made
      exact ⟨_, (callsImport_iff _).mpr ⟨by simpa using plain, literal, said, rfl⟩, rfl⟩

theorem own_call (kind : call.kind = .call) : own? call = ofCall? call := by
  unfold own?
  rw [kind]
  rfl

/-- Behind an argument a comment makes no difference; in front of all of them it is taken for the
first. -/
theorem own_comment {other : Tree} {front : List Tree} (adds : AddsComment call other front) :
    own? other = if front.any Tree.isNamed then own? call else none := by
  obtain ⟨arguments, others, comment, back, given, taken, kind, whole, parts⟩ := adds.arguments
  rw [own_call adds.calls, own_call adds.called]
  unfold ofCall?
  rw [adds.function, adds.line, given, taken]
  have named : comment.isNamed = true := by
    unfold Tree.isNamed
    rw [kind]
    rfl
  split
  · rename_i behind
    -- The first argument stands in front of the comment.
    have same : others.children.find? Tree.isNamed = arguments.children.find? Tree.isNamed := by
      rw [whole, parts, List.find?_append, List.find?_append]
      obtain ⟨first, found⟩ := Option.isSome_iff_exists.mp
        (List.find?_isSome.mpr (List.any_eq_true.mp behind))
      rw [found]
      rfl
    simp only [Option.bind_eq_bind, Option.bind_some, same]
  · rename_i bare
    have first : others.children.find? Tree.isNamed = some comment := by
      rw [parts, List.find?_append, List.find?_cons, named,
        List.find?_eq_none.mpr fun argument member held =>
          bare (List.any_eq_true.mpr ⟨argument, member, held⟩)]
      rfl
    cases call.part? .function with
    | none => rfl
    | some function => simp [first, kind]

end Calls

theorem mem_visited (tree node : Tree) : node ∈ visited tree ↔
    ∃ place, tree.nodeAt? place = some node ∧ Outside tree place := by
  rw [← placed_visited, List.mem_map]
  constructor
  · rintro ⟨⟨place, _⟩, member, rfl⟩
    exact ⟨place, (mem_placed tree place _).mp member⟩
  · rintro ⟨place, stands⟩
    exact ⟨(place, node), (mem_placed tree place node).mpr stands, rfl⟩

end ImportDeclaration

namespace ImportEdge

open ImportDeclaration

variable (resolver : Resolver) (tree : FileTree) (importer : Path)

/-- What is extracted from a text that can be read is made from its declarations in their order. -/
theorem extract_whole (text : String) (script : (Language.ofPath importer).isScript = true)
    (whole : (parse (Language.ofPath importer) text.toList).broken = false) :
    extract resolver tree importer text =
      .ok ((collect (parse (Language.ofPath importer) text.toList)).map
        (ofDeclaration resolver tree importer)) := by
  unfold extract
  dsimp only
  rw [if_neg (by simp [script]), if_neg (by simp [whole]), inOrder_eq_collect (grammatical_of_parse whole)]

/-- The dynamic imports of a text that can be read are, in their order, those of its calls of `import`
with a string literal as the first argument, comments aside, where no comment stands in front of it.
The calls are looked for everywhere outside of whole declarations. The specifier is what stands between
the quotes, without quotes at its own ends. One comment more makes no difference behind an argument,
and loses the import in front of all of them. -/
theorem extract_calls (text : String) (script : (Language.ofPath importer).isScript = true)
    (whole : (parse (Language.ofPath importer) text.toList).broken = false) :
    let parsed := parse (Language.ofPath importer) text.toList
    ∃ edges, extract resolver tree importer text = .ok edges ∧
      (edges.filter fun edge => edge.kind == .dynamic) =
        ((visited parsed).filter fun node => !isCommented node).filterMap (fun call =>
          (givenLiteral? call).map fun literal =>
            ofCall resolver tree importer (unquote literal.text) call.line) ∧
      (∀ node, node ∈ visited parsed ↔
        ∃ place, parsed.nodeAt? place = some node ∧ Outside parsed place) ∧
      (∀ call ∈ visited parsed, ∀ literal, givenLiteral? call = some literal →
        Quotes literal.text (unquote literal.text)) ∧
      ∀ call other front, AddsComment call other front →
        own? other = if front.any Tree.isNamed then own? call else none := by
  intro parsed
  refine ⟨_, extract_whole resolver tree importer text script whole, ?_, mem_visited parsed,
    fun call seen literal said => ?_, fun call other front => own_comment⟩
  · rw [List.filter_map, collect_eq, List.filter_filterMap, List.map_filterMap,
      List.filterMap_filter]
    refine List.filterMap_congr fun node _ => ?_
    change ((own? node).filter fun made => made.kind == .dynamic).map _ = _
    rw [own_dynamic]
    cases isCommented node with
    | true => rfl
    | false =>
        rw [if_neg Bool.false_ne_true, Option.map_map]
        rfl
  · obtain ⟨string, inside⟩ := givenLiteral_mem said
    have complete := complete_of_visited (grammatical_of_parse whole).complete seen literal inside
    unfold Tree.Complete at complete
    rw [string] at complete
    exact quotes_unquote complete

def trailedText : String := "import('./a' /* c */)"

theorem extract_calls_trailed : (Language.ofPath ⟨"/repo/src/f.ts"⟩).isScript = true ∧
    (parse (Language.ofPath ⟨"/repo/src/f.ts"⟩) trailedText.toList).broken = false ∧
    ∃ edges, extract ReachableSet.plainResolver {} ⟨"/repo/src/f.ts"⟩ trailedText = .ok edges ∧
      (edges.filter fun edge => edge.kind == .dynamic) =
        [ofCall ReachableSet.plainResolver {} ⟨"/repo/src/f.ts"⟩ "./a" 1] := by
  have script : (Language.ofPath ⟨"/repo/src/f.ts"⟩).isScript = true := by decide
  have whole : (parse (Language.ofPath ⟨"/repo/src/f.ts"⟩) trailedText.toList).broken = false := by
    decide +kernel
  obtain ⟨edges, extracted, dynamic, -⟩ :=
    extract_calls ReachableSet.plainResolver {} ⟨"/repo/src/f.ts"⟩ trailedText script whole
  refine ⟨script, whole, edges, extracted, dynamic.trans ?_⟩
  decide +kernel

def commentedText : String := "import(/* c */ './a')"

/-- The text can be read and holds one call of `import`, which has a literal as its first argument,
comments aside; but nothing is extracted from it. -/
theorem extract_commented :
    let parsed := parse (Language.ofPath ⟨"/repo/src/f.ts"⟩) commentedText.toList
    (Language.ofPath ⟨"/repo/src/f.ts"⟩).isScript = true ∧ parsed.broken = false ∧
      ((visited parsed).filterMap fun call =>
        (givenLiteral? call).map fun literal => (literal.text, call.line)) =
          [("'./a'".toList, 1)] ∧
      extract ReachableSet.plainResolver {} ⟨"/repo/src/f.ts"⟩ commentedText = .ok [] := by
  intro parsed
  refine ⟨by decide, by decide +kernel, by decide +kernel, ?_⟩
  apply ReachableSet.ok_of_toOption
  decide +kernel

end ImportEdge

end UiContract

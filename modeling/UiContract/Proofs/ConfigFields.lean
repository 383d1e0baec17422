import UiContract.Proofs.Preparation
import UiContract.Proofs.SectionDecoding
import UiContract.Proofs.TomlDocuments

/-!
What an accepted configuration has to do with its text. Every table that stands for a section has only
declared keys; what is there has the value of its key, and what is left out has its default. The one thing
that is not as it stands in the text is a date or a time in place of the aliases.
-/
namespace UiContract

open Datum Declared Decoding

theorem needed_ok {α β : Type} {name : String} {known : Option α} {next : α → Except String β}
    {result : β} (done : (needed name known >>= next) = .ok result) :
    ∃ value, known = some value ∧ next value = .ok result := by
  cases known with
  | none => exact nomatch done
  | some value => exact ⟨value, rfl, done⟩

theorem join_eq_getD {α : Type} (known : Option (Option α)) : known.join = known.getD none := by
  cases known <;> rfl

theorem sound_mapOfLists {α : Type} {item : Decoding α} {given : Datum → α → Prop}
    (sound : Sound item given) : Sound (map (list item)) (IsMap (IsList given)) :=
  fun datum value proper done => (sound_map (sound_list sound) datum value proper done).isMap

namespace RegistrySection

def slots : List (Slot Draft RegistrySection) :=
  [⟨required "table" IsText table, Draft.table⟩,
   ⟨required "component_root" IsText componentRoot, Draft.componentRoot⟩,
   ⟨defaulted "ignore" (IsList IsText) ignore [], Draft.ignore⟩]

def declared : List (Declared RegistrySection) := slots.map Slot.toDeclared

theorem follows : Follows record slots where
  closed := rfl
  fields :=
    .cons (reads_of sound_text rfl (fun _ => rfl) (fun _ _ => rfl)
      (by simp [slots, required, defaulted])) <|
    .cons (reads_of sound_text rfl (fun _ => rfl) (fun _ _ => rfl)
      (by simp [slots, required, defaulted])) <|
    .cons (reads_of (sound_list sound_text) rfl (fun _ => rfl) (fun _ _ => rfl)
      (by simp [slots, required, defaulted])) .nil
  distinct := by decide
  apart := by decide
  blank := by simp [slots, record, required, defaulted]
  finish draft value done := by
    obtain ⟨table, known, done⟩ := needed_ok done
    obtain ⟨componentRoot, known', done⟩ := needed_ok done
    obtain rfl := Except.ok.inj done
    simp only [slots, List.forall_mem_cons]
    exact ⟨Slot.ends_known known, Slot.ends_known known', Slot.ends_default rfl rfl, nofun⟩

theorem sound : Sound (Decoding.table record) (IsSection declared) := sound_table follows

end RegistrySection

namespace PatternRule

def slots : List (Slot Draft PatternRule) :=
  [⟨required "id" IsText id, Draft.id⟩,
   ⟨required "pattern" IsText pattern, Draft.pattern⟩,
   ⟨defaulted "hint" IsText hint "", Draft.hint⟩,
   ⟨defaulted "level" (IsChoice Level.named) level .error, Draft.level⟩]

def declared : List (Declared PatternRule) := slots.map Slot.toDeclared

theorem follows : Follows record slots where
  closed := rfl
  fields :=
    .cons (reads_of sound_text rfl (fun _ => rfl) (fun _ _ => rfl)
      (by simp [slots, required, defaulted])) <|
    .cons (reads_of sound_text rfl (fun _ => rfl) (fun _ _ => rfl)
      (by simp [slots, required, defaulted])) <|
    .cons (reads_of sound_text rfl (fun _ => rfl) (fun _ _ => rfl)
      (by simp [slots, required, defaulted])) <|
    .cons (reads_of (sound_variant Level.named) rfl (fun _ => rfl) (fun _ _ => rfl)
      (by simp [slots, required, defaulted])) .nil
  distinct := by decide
  apart := by decide
  blank := by simp [slots, record, required, defaulted]
  finish draft value done := by
    obtain ⟨id, known, done⟩ := needed_ok done
    obtain ⟨pattern, known', done⟩ := needed_ok done
    obtain rfl := Except.ok.inj done
    simp only [slots, List.forall_mem_cons]
    exact ⟨Slot.ends_known known, Slot.ends_known known', Slot.ends_default rfl rfl,
      Slot.ends_default rfl rfl, nofun⟩

theorem sound : Sound (Decoding.table record) (IsSection declared) := sound_table follows

end PatternRule

namespace PatternsSection

def slots : List (Slot Draft PatternsSection) :=
  [⟨required "scan" (IsList IsText) scan, Draft.scan⟩,
   ⟨defaulted "rules" (IsList (IsSection PatternRule.declared)) rules [], Draft.rules⟩,
   ⟨defaulted "exceptions" (IsMap (IsList IsText)) exceptions {}, Draft.exceptions⟩]

def declared : List (Declared PatternsSection) := slots.map Slot.toDeclared

theorem follows : Follows record slots where
  closed := rfl
  fields :=
    .cons (reads_of (sound_list sound_text) rfl (fun _ => rfl) (fun _ _ => rfl)
      (by simp [slots, required, defaulted])) <|
    .cons (reads_of (sound_list PatternRule.sound) rfl (fun _ => rfl) (fun _ _ => rfl)
      (by simp [slots, required, defaulted])) <|
    .cons (reads_of (sound_mapOfLists sound_text) rfl (fun _ => rfl) (fun _ _ => rfl)
      (by simp [slots, required, defaulted])) .nil
  distinct := by decide
  apart := by decide
  blank := by simp [slots, record, required, defaulted]
  finish draft value done := by
    obtain ⟨scan, known, done⟩ := needed_ok done
    obtain rfl := Except.ok.inj done
    simp only [slots, List.forall_mem_cons]
    exact ⟨Slot.ends_known known, Slot.ends_default rfl rfl, Slot.ends_default rfl rfl, nofun⟩

theorem sound : Sound (Decoding.table record) (IsSection declared) := sound_table follows

end PatternsSection

namespace BannedImportRule

def slots : List (Slot Draft BannedImportRule) :=
  [⟨required "id" IsText id, Draft.id⟩,
   ⟨required "specifier" IsText specifier, Draft.specifier⟩,
   ⟨defaulted "match" (IsChoice ImportMatch.named) compared .whole, Draft.compared⟩,
   ⟨defaulted "hint" IsText hint "", Draft.hint⟩]

def declared : List (Declared BannedImportRule) := slots.map Slot.toDeclared

theorem follows : Follows record slots where
  closed := rfl
  fields :=
    .cons (reads_of sound_text rfl (fun _ => rfl) (fun _ _ => rfl)
      (by simp [slots, required, defaulted])) <|
    .cons (reads_of sound_text rfl (fun _ => rfl) (fun _ _ => rfl)
      (by simp [slots, required, defaulted])) <|
    .cons (reads_of (sound_variant ImportMatch.named) rfl (fun _ => rfl) (fun _ _ => rfl)
      (by simp [slots, required, defaulted])) <|
    .cons (reads_of sound_text rfl (fun _ => rfl) (fun _ _ => rfl)
      (by simp [slots, required, defaulted])) .nil
  distinct := by decide
  apart := by decide
  blank := by simp [slots, record, required, defaulted]
  finish draft value done := by
    obtain ⟨id, known, done⟩ := needed_ok done
    obtain ⟨specifier, known', done⟩ := needed_ok done
    obtain rfl := Except.ok.inj done
    simp only [slots, List.forall_mem_cons]
    exact ⟨Slot.ends_known known, Slot.ends_known known', Slot.ends_default rfl rfl,
      Slot.ends_default rfl rfl, nofun⟩

theorem sound : Sound (Decoding.table record) (IsSection declared) := sound_table follows

end BannedImportRule

namespace ShellSection

def slots : List (Slot Draft ShellSection) :=
  [⟨required "routes_dir" IsText routesDirectory, Draft.routesDirectory⟩,
   ⟨required "wrappers" (IsList IsText) wrappers, Draft.wrappers⟩,
   ⟨defaulted "exempt" (IsList IsText) exempt [], Draft.exempt⟩]

def declared : List (Declared ShellSection) := slots.map Slot.toDeclared

theorem follows : Follows record slots where
  closed := rfl
  fields :=
    .cons (reads_of sound_text rfl (fun _ => rfl) (fun _ _ => rfl)
      (by simp [slots, required, defaulted])) <|
    .cons (reads_of (sound_list sound_text) rfl (fun _ => rfl) (fun _ _ => rfl)
      (by simp [slots, required, defaulted])) <|
    .cons (reads_of (sound_list sound_text) rfl (fun _ => rfl) (fun _ _ => rfl)
      (by simp [slots, required, defaulted])) .nil
  distinct := by decide
  apart := by decide
  blank := by simp [slots, record, required, defaulted]
  finish draft value done := by
    obtain ⟨routesDirectory, known, done⟩ := needed_ok done
    obtain ⟨wrappers, known', done⟩ := needed_ok done
    obtain rfl := Except.ok.inj done
    simp only [slots, List.forall_mem_cons]
    exact ⟨Slot.ends_known known, Slot.ends_known known', Slot.ends_default rfl rfl, nofun⟩

theorem sound : Sound (Decoding.table record) (IsSection declared) := sound_table follows

end ShellSection

namespace BudgetRule

def slots : List (Slot Draft BudgetRule) :=
  [⟨required "id" IsText id, Draft.id⟩,
   ⟨required "metric" (IsChoice BudgetMetric.named) metric, Draft.metric⟩,
   ⟨required "files" (IsList IsText) files, Draft.files⟩,
   ⟨required "max" IsNatural max, Draft.max⟩,
   ⟨defaulted "aggregate" IsBoolean aggregate false, Draft.aggregate⟩,
   ⟨defaulted "literal" (IsGiven IsText) literal none, Draft.literal⟩,
   ⟨defaulted "hint" IsText hint "", Draft.hint⟩]

def declared : List (Declared BudgetRule) := slots.map Slot.toDeclared

theorem follows : Follows record slots where
  closed := rfl
  fields :=
    .cons (reads_of sound_text rfl (fun _ => rfl) (fun _ _ => rfl)
      (by simp [slots, required, defaulted])) <|
    .cons (reads_of (sound_variant BudgetMetric.named) rfl (fun _ => rfl) (fun _ _ => rfl)
      (by simp [slots, required, defaulted])) <|
    .cons (reads_of (sound_list sound_text) rfl (fun _ => rfl) (fun _ _ => rfl)
      (by simp [slots, required, defaulted])) <|
    .cons (reads_of (sound_natural _ _) rfl (fun _ => rfl) (fun _ _ => rfl)
      (by simp [slots, required, defaulted])) <|
    .cons (reads_of sound_boolean rfl (fun _ => rfl) (fun _ _ => rfl)
      (by simp [slots, required, defaulted])) <|
    .cons (reads_of (sound_optional sound_text) rfl (fun _ => rfl) (fun _ _ => rfl)
      (by simp [slots, required, defaulted])) <|
    .cons (reads_of sound_text rfl (fun _ => rfl) (fun _ _ => rfl)
      (by simp [slots, required, defaulted])) .nil
  distinct := by decide
  apart := by decide
  blank := by simp [slots, record, required, defaulted]
  finish draft value done := by
    obtain ⟨id, known, done⟩ := needed_ok done
    obtain ⟨metric, known', done⟩ := needed_ok done
    obtain ⟨files, known'', done⟩ := needed_ok done
    obtain ⟨max, bound, done⟩ := needed_ok done
    obtain rfl := Except.ok.inj done
    simp only [slots, List.forall_mem_cons]
    exact ⟨Slot.ends_known known, Slot.ends_known known', Slot.ends_known known'',
      Slot.ends_known bound, Slot.ends_default rfl rfl, Slot.ends_default rfl (join_eq_getD _),
      Slot.ends_default rfl rfl, nofun⟩

theorem sound : Sound (Decoding.table record) (IsSection declared) := sound_table follows

end BudgetRule

namespace CrossRefSection

def slots : List (Slot Draft CrossRefSection) :=
  [⟨required "blueprints" IsText blueprints, Draft.blueprints⟩,
   ⟨required "shared_data" IsText sharedData, Draft.sharedData⟩]

def declared : List (Declared CrossRefSection) := slots.map Slot.toDeclared

theorem follows : Follows record slots where
  closed := rfl
  fields :=
    .cons (reads_of sound_text rfl (fun _ => rfl) (fun _ _ => rfl) (by simp [slots, required])) <|
    .cons (reads_of sound_text rfl (fun _ => rfl) (fun _ _ => rfl) (by simp [slots, required])) .nil
  distinct := by decide
  apart := by decide
  blank := by simp [slots, record, required]
  finish draft value done := by
    obtain ⟨blueprints, known, done⟩ := needed_ok done
    obtain ⟨sharedData, known', done⟩ := needed_ok done
    obtain rfl := Except.ok.inj done
    simp only [slots, List.forall_mem_cons]
    exact ⟨Slot.ends_known known, Slot.ends_known known', nofun⟩

theorem sound : Sound (Decoding.table record) (IsSection declared) := sound_table follows

end CrossRefSection

namespace GateConfig

def slots (isAliases : Datum → SortedMap String String → Prop) : List (Slot Draft GateConfig) :=
  [⟨defaulted "schema_version" IsNatural schemaVersion 1, Draft.schemaVersion⟩,
   ⟨required "source_root" IsText sourceRoot, Draft.sourceRoot⟩,
   ⟨required "entries" (IsList IsText) entries, Draft.entries⟩,
   ⟨defaulted "extensions" (IsList IsText) extensions [".ts", ".tsx", ".js", ".jsx"],
     Draft.extensions⟩,
   ⟨defaulted "aliases" isAliases aliases {}, Draft.aliases⟩,
   ⟨defaulted "registry" (IsGiven (IsSection RegistrySection.declared)) registry none,
     Draft.registry⟩,
   ⟨defaulted "patterns" (IsGiven (IsSection PatternsSection.declared)) patterns none,
     Draft.patterns⟩,
   ⟨defaulted "banned_imports" (IsList (IsSection BannedImportRule.declared)) bannedImports [],
     Draft.bannedImports⟩,
   ⟨defaulted "shell" (IsGiven (IsSection ShellSection.declared)) shell none, Draft.shell⟩,
   ⟨defaulted "budgets" (IsList (IsSection BudgetRule.declared)) budgets [], Draft.budgets⟩,
   ⟨defaulted "cross_ref" (IsGiven (IsSection CrossRefSection.declared)) crossRef none,
     Draft.crossRef⟩]

def declared (isAliases : Datum → SortedMap String String → Prop) : List (Declared GateConfig) :=
  (slots isAliases).map Slot.toDeclared

theorem follows : Follows record (slots (IsMapOrMoment IsText)) where
  closed := rfl
  fields :=
    .cons (reads_of (sound_natural _ _) rfl (fun _ => rfl) (fun _ _ => rfl)
      (by simp [slots, required, defaulted])) <|
    .cons (reads_of sound_text rfl (fun _ => rfl) (fun _ _ => rfl)
      (by simp [slots, required, defaulted])) <|
    .cons (reads_of (sound_list sound_text) rfl (fun _ => rfl) (fun _ _ => rfl)
      (by simp [slots, required, defaulted])) <|
    .cons (reads_of (sound_list sound_text) rfl (fun _ => rfl) (fun _ _ => rfl)
      (by simp [slots, required, defaulted])) <|
    .cons (reads_of (sound_map sound_text) rfl (fun _ => rfl) (fun _ _ => rfl)
      (by simp [slots, required, defaulted])) <|
    .cons (reads_of (sound_optional RegistrySection.sound) rfl (fun _ => rfl) (fun _ _ => rfl)
      (by simp [slots, required, defaulted])) <|
    .cons (reads_of (sound_optional PatternsSection.sound) rfl (fun _ => rfl) (fun _ _ => rfl)
      (by simp [slots, required, defaulted])) <|
    .cons (reads_of (sound_list BannedImportRule.sound) rfl (fun _ => rfl) (fun _ _ => rfl)
      (by simp [slots, required, defaulted])) <|
    .cons (reads_of (sound_optional ShellSection.sound) rfl (fun _ => rfl) (fun _ _ => rfl)
      (by simp [slots, required, defaulted])) <|
    .cons (reads_of (sound_list BudgetRule.sound) rfl (fun _ => rfl) (fun _ _ => rfl)
      (by simp [slots, required, defaulted])) <|
    .cons (reads_of (sound_optional CrossRefSection.sound) rfl (fun _ => rfl) (fun _ _ => rfl)
      (by simp [slots, required, defaulted])) .nil
  distinct := by decide
  apart := by decide
  blank := by simp [slots, record, required, defaulted]
  finish draft value done := by
    obtain ⟨sourceRoot, known, done⟩ := needed_ok done
    obtain ⟨entries, known', done⟩ := needed_ok done
    obtain rfl := Except.ok.inj done
    simp only [slots, List.forall_mem_cons]
    exact ⟨Slot.ends_default rfl rfl, Slot.ends_known known, Slot.ends_known known',
      Slot.ends_default rfl rfl, Slot.ends_default rfl rfl, Slot.ends_default rfl (join_eq_getD _),
      Slot.ends_default rfl (join_eq_getD _), Slot.ends_default rfl rfl,
      Slot.ends_default rfl (join_eq_getD _), Slot.ends_default rfl rfl,
      Slot.ends_default rfl (join_eq_getD _), nofun⟩

/-- A text describes a configuration: it is a table, and the configuration has its values and makes sense.
In no table, this one and those for sections among them, a name stands twice. -/
structure Describes (isAliases : Datum → SortedMap String String → Prop) (text : String)
    (config : GateConfig) : Prop where
  read : ∃ span entries, Toml.parse text = .ok (.table span entries) ∧
    (Datum.table span entries).Proper ∧
    IsSection (declared isAliases) (.table span entries) config
  sensible : config.Sensible

/-- Whatever configuration is accepted is described by its text, where a date or a time in place of the
aliases counts as a map with the one name that is kept for these. -/
theorem ofToml_describes (text : String) (config : GateConfig) (accepted : ofToml text = .ok config) :
    Describes (IsMapOrMoment IsText) text config := by
  refine ⟨?_, sensible_of_ofToml text config accepted⟩
  unfold ofToml at accepted
  split at accepted
  · exact nomatch accepted
  · rename_i datum parsed
    obtain ⟨proper, span, entries, rfl⟩ := Toml.parse_proper text datum parsed
    split at accepted
    · split at accepted <;> exact nomatch accepted
    · rename_i made decoded
      split at accepted
      · exact nomatch accepted
      · rw [← Except.ok.inj accepted]
        exact ⟨span, entries, parsed, proper, sound_table follows _ made proper decoded⟩

def shellText : String :=
  "source_root = 'src'\nentries = ['src/main.ts']\n[shell]\nroutes_dir = 'r'\nwrappers = ['Page']\n"

theorem ofToml_describes_shell : ∃ config, ofToml shellText = .ok config ∧
    config.shell = some { routesDirectory := "r", wrappers := ["Page"] } ∧
    Describes (IsMapOrMoment IsText) shellText config := by
  have computed : (ofToml shellText).toOption.any (fun config =>
      decide (config.shell = some { routesDirectory := "r", wrappers := ["Page"] })) = true := by
    decide +kernel
  cases accepted : ofToml shellText with
  | error error =>
      rw [accepted] at computed
      exact absurd computed Bool.false_ne_true
  | ok config =>
      rw [accepted] at computed
      exact ⟨config, rfl, of_decide_eq_true computed, ofToml_describes shellText config accepted⟩

def datedText : String :=
  "source_root = \"src\"\nentries = [\"src/main.ts\"]\naliases = 1979-05-27\n"

def isScalar : Datum → Bool
  | .scalar _ _ => true
  | _ => false

def scalarUnder (name : String) : Datum → Bool
  | .table _ entries => entries.any fun entry => entry.1.name == name && isScalar entry.2
  | _ => false

/-- A date is no map, and yet a configuration is made of it. -/
theorem ofToml_dated : ∃ config, ofToml datedText = .ok config ∧
    ¬ Describes (IsMap IsText) datedText config := by
  have computed : (ofToml datedText).isOk = true := by decide +kernel
  have dated : (Toml.parse datedText).toOption.any (scalarUnder "aliases") = true := by decide +kernel
  cases accepted : ofToml datedText with
  | error error =>
      rw [accepted] at computed
      exact absurd computed Bool.false_ne_true
  | ok config =>
      refine ⟨config, rfl, fun describes => ?_⟩
      obtain ⟨span, entries, parsed, -, fields⟩ := describes.read
      rw [parsed] at dated
      obtain ⟨⟨key, datum⟩, member, hit⟩ := List.any_eq_true.mp dated
      rw [Bool.and_eq_true, beq_iff_eq] at hit
      cases fields with
      | table _ _ _ _ present _ =>
          have listed : defaulted "aliases" (IsMap IsText) aliases {} ∈ declared (IsMap IsText) := by
            simp [declared, slots]
          have given : (IsMap IsText) datum config.aliases := present _ listed _ member hit.1
          -- What is under the key has no parts, and a table has.
          cases given
          exact Bool.false_ne_true hit.2

end GateConfig

end UiContract

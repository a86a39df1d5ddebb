import Mathlib.Data.List.Forall2
import RecordPipeline.CommandLine.Run
import RecordPipeline.Proofs.FieldMapping.Document
import RecordPipeline.Proofs.FieldMapping.Output
import RecordPipeline.Proofs.Settings.Reading
import RecordPipeline.Proofs.Value.Named
set_option autoImplicit false

/-!
Two ways to declare the types of fields: with options, and in the environment. Both cut an entry at
its first colon. Blanks around a type do not count in either, but only the environment takes them
from around a field; with options, a field with such blanks is a field of another name.
-/

namespace RecordPipeline

namespace FieldMappings

open Text

def partsOf (entry : String) : String × String :=
  let (field, typeName) := cut ':' entry.toList
  (String.ofList field, String.ofList (typeName.getD []))

/-- The environment can have this entry among others, and finds a field and a type in it. -/
structure Accepted (entry : String) : Prop where
  single : ',' ∉ entry.toList
  declares : ∃ m, readEntry entry.toList = .ok (some m)

/-- No blanks around the field. -/
def Bare (entry : String) : Prop := trim (partsOf entry).1 = (partsOf entry).1

instance (entry : String) : Decidable (Bare entry) := inferInstanceAs (Decidable (_ = _))

def trimmed (m : String × String) : String × String := (trim m.1, trim m.2)

section Entry

variable {entry : String}

theorem Accepted.exists_colon (h : Accepted entry) :
    ∃ front back, entry.toList = front ++ ':' :: back ∧ ':' ∉ front ∧ trimChars back ≠ [] := by
  obtain ⟨m, found⟩ := h.declares
  by_cases blank : Blank entry.toList
  · rw [readEntry_of_blank blank] at found
    cases found
  by_cases colon : ':' ∈ entry.toList
  case neg =>
    rw [readEntry_of_unreadable ⟨blank, .inl colon⟩] at found
    cases found
  obtain ⟨front, back, parts, unmarked⟩ := List.eq_append_cons_of_mem colon
  refine ⟨front, back, parts, unmarked, fun untyped => ?_⟩
  rw [parts, readEntry_append unmarked, if_pos untyped] at found
  cases found

theorem Accepted.cut_eq (h : Accepted entry) :
    cut ':' entry.toList = ((partsOf entry).1.toList, some (partsOf entry).2.toList) := by
  obtain ⟨front, back, parts, unmarked, -⟩ := h.exists_colon
  simp only [partsOf, parts, cut_append ':' front back unmarked, String.toList_ofList, Option.getD_some]

theorem Accepted.readEntry_eq (h : Accepted entry) :
    readEntry entry.toList = .ok (some (trimmed (partsOf entry))) := by
  obtain ⟨front, back, parts, unmarked, typed⟩ := h.exists_colon
  rw [parts, readEntry_append unmarked, if_neg typed]
  simp only [trimmed, trim, partsOf, parts, cut_append ':' front back unmarked,
    String.toList_ofList, Option.getD_some]

end Entry

section Entries

variable {entries : List String}

theorem readEntries_of_accepted (accepted : ∀ entry ∈ entries, Accepted entry) (found : List (String × String)) :
    readEntries found (entries.map String.toList) =
      .ok (putAllNamed found (entries.map fun entry => trimmed (partsOf entry))) := by
  induction entries generalizing found with
  | nil => rfl
  | cons entry entries ih =>
    obtain ⟨first, others⟩ := List.forall_mem_cons.mp accepted
    rw [List.map_cons, readEntries, first.readEntry_eq]
    exact ih others _

theorem read_of_accepted (ne : entries ≠ []) (accepted : ∀ entry ∈ entries, Accepted entry) :
    read (String.ofList (join ',' (entries.map String.toList))) =
      .ok (putAllNamed [] (entries.map fun entry => trimmed (partsOf entry))) := by
  have parts : Entries (String.ofList (join ',' (entries.map String.toList))) (entries.map String.toList) :=
    ⟨String.toList_ofList, by simpa using ne, by simpa using fun entry member => (accepted entry member).single⟩
  rw [parts.read_eq, readEntries_of_accepted accepted]

end Entries

end FieldMappings

theorem TargetType.ofName?_trim (typeName : String) : ofName? (Text.trim typeName) = ofName? typeName := by
  simp only [ofName?, Text.trim_trim]

namespace FieldMapping

def declaration (m : String × String) : Value × Value := (.text m.1, .text m.2)

section Declared

variable {s : Settings} {named : List (String × String)} {ts : Targets}

theorem map_declaration_putNamed (field typeName : String) (named : List (String × String)) :
    (putNamed field typeName named).map declaration =
      Value.putEntry (.text field) (.text typeName) (named.map declaration) := by
  induction named with
  | nil => rfl
  | cons m named ih =>
    by_cases same : m.1 = field <;>
      simp [putNamed, Value.putEntry, declaration, Value.sameKey_text_iff, same, ih]

theorem foldl_putEntry_declaration (found named : List (String × String)) :
    (named.map declaration).foldl (fun found f => Value.putEntry f.1 f.2 found) (found.map declaration) =
      (putAllNamed found named).map declaration := by
  induction named generalizing found with
  | nil => rfl
  | cons m named ih =>
    have others := ih (putNamed m.1 m.2 found)
    rw [map_declaration_putNamed] at others
    exact others

theorem targets_eq_ok_iff {source : Source} {ds : Fields} (found : declared s source = .ok ds) :
    targets s source = .ok ts ↔ Resolves ds ts := by
  rw [← resolve_eq_ok_iff, targets, found]
  cases h : resolve ds <;> simp [Except.mapError, bind, Except.bind, h]

theorem targets_settings_iff : targets s .settings = .ok ts ↔ Resolves (s.fieldMappings.map declaration) ts :=
  targets_eq_ok_iff rfl

theorem targets_declaration_iff : targets s (.fields (named.map declaration)) = .ok ts ↔
    Resolves ((putAllNamed [] named).map declaration) ts :=
  targets_eq_ok_iff (congrArg Except.ok (foldl_putEntry_declaration [] named))

theorem resolves_trimmed_types : Resolves ((named.map (Prod.map id Text.trim)).map declaration) ts ↔
    Resolves (named.map declaration) ts := by
  have same (typeName : String) (t : TargetType) :
      TargetType.ofValue (.text (Text.trim typeName)) = .ok t ↔ TargetType.ofValue (.text typeName) = .ok t := by
    cases known : TargetType.ofName? typeName <;> simp [TargetType.ofValue, TargetType.ofName?_trim, known]
  simp only [Resolves, List.forall₂_map_left_iff, declaration, Prod.map_fst, Prod.map_snd, id_eq, same]

end Declared

end FieldMapping

namespace CommandLine

open FieldMapping (Targets Resolves declaration)
open FieldMappings (Accepted Bare partsOf trimmed)

/-- Options that pass entries. Each entry is attached to its option, or stands behind it if it is a
word. -/
inductive Passed : List String → List String → Prop where
  | nil : Passed [] []
  | attached {entries options} (entry : String) : Passed entries options →
    Passed (entry :: entries) (("--mapping=" ++ entry) :: options)
  | behind {entry entries options} (word : Token.ofArgument? entry = some (.word entry)) : Passed entries options →
    Passed (entry :: entries) ("--mapping" :: entry :: options)

/-- The targets of the mapper that a command line makes in an environment. -/
def Configures (e : Environment) (args : List String) (ts : Targets) : Prop :=
  ∃ r source s, Reading.ofArguments args = .request r ∧ sourceOf r = .ok source ∧ Settings.read e = .ok s ∧
    FieldMapping.targets s source = .ok ts

section Arguments

variable {entries options : List String} {entry input : String}

theorem ofArgument?_attached (entry : String) :
    Token.ofArgument? ("--mapping=" ++ entry) = some (.switch .mapping (some entry)) := by
  have parts : ("--mapping=" ++ entry).toList = '-' :: '-' :: ("mapping".toList ++ '=' :: entry.toList) := by
    rw [String.toList_append]
    rfl
  have attached : Text.cut '=' ('-' :: '-' :: ("mapping".toList ++ '=' :: entry.toList)) =
      ("--mapping".toList, some entry.toList) := Text.cut_append '=' "--mapping".toList entry.toList (by decide)
  have known : Token.longNames.lookup "--mapping" = some .mapping := by decide
  simp only [Token.ofArgument?, parts, attached, String.ofList_toList, known, Option.map_some]

theorem ne_separator {arg : String} {token : Token} (read : Token.ofArgument? arg = some token) : arg ≠ "--" := by
  rintro rfl
  cases read

theorem exists_tokens_of_passed (passed : Passed entries options) :
    ∃ tokens, Token.ofArguments? options = some tokens ∧ (∀ rest, tokens ≠ .separator :: rest) ∧
      ∀ t : Reading.Taken, Reading.ofTokens t tokens = { t with mappings := t.mappings ++ entries }.finish := by
  induction passed with
  | nil => exact ⟨[], rfl, by simp, fun t => by simp [Reading.ofTokens]⟩
  | @attached entries options entry _ ih =>
    obtain ⟨tokens, read, -, taken⟩ := ih
    have option := ofArgument?_attached entry
    refine ⟨.switch .mapping (some entry) :: tokens, ?_, by simp, fun t => ?_⟩
    · simp only [Token.ofArguments?, ne_separator option, if_false, option, read]
      rfl
    · rw [Reading.ofTokens, taken, List.append_assoc, List.singleton_append]
  | @behind entry entries options word _ ih =>
    obtain ⟨tokens, read, -, taken⟩ := ih
    have option : Token.ofArgument? "--mapping" = some (.switch .mapping none) := by decide
    refine ⟨.switch .mapping none :: .word entry :: tokens, ?_, by simp, fun t => ?_⟩
    · have apart : "--mapping" ≠ "--" := by decide
      simp only [Token.ofArguments?, apart, ne_separator word, if_false, option, word, read]
      rfl
    · rw [Reading.ofTokens, taken, List.append_assoc, List.singleton_append]

theorem ofArguments_passed (word : Token.ofArgument? input = some (.word input)) (passed : Passed entries options) :
    Reading.ofArguments (input :: options) = .request { input, mappings := entries } := by
  obtain ⟨tokens, read, first, taken⟩ := exists_tokens_of_passed passed
  have whole : Token.ofArguments? (input :: options) = some (.word input :: tokens) := by
    simp only [Token.ofArguments?, ne_separator word, if_false, word, read]
    rfl
  have opened : Reading.ofTokens {} (.word input :: tokens) = Reading.ofTokens { input := some input } tokens := by
    rw [Reading.ofTokens]
    exact first
  simp only [Reading.ofArguments, whole, opened, taken]
  rfl

theorem declaredBy_of_accepted (accepted : ∀ entry ∈ entries, Accepted entry) (index : Nat) :
    declaredBy index entries = .ok ((entries.map partsOf).map declaration) := by
  induction entries generalizing index with
  | nil => rfl
  | cons entry entries ih =>
    obtain ⟨first, others⟩ := List.forall_mem_cons.mp accepted
    simp only [declaredBy, first.cut_eq, String.ofList_toList, ih others]
    rfl

end Arguments

section Configured

variable {e : Environment} {args entries options : List String} {input : String} {r : Request} {s : Settings}
  {ts : Targets}

theorem configures_iff {source : FieldMapping.Source} (asked : Reading.ofArguments args = .request r)
    (given : sourceOf r = .ok source) (read : Settings.read e = .ok s) :
    Configures e args ts ↔ FieldMapping.targets s source = .ok ts := by
  constructor
  · rintro ⟨r', source', s', asked', given', read', made⟩
    cases asked.symm.trans asked'
    cases given.symm.trans given'
    cases read.symm.trans read'
    exact made
  · exact fun made => ⟨r, source, s, asked, given, read, made⟩

theorem configures_options (ne : entries ≠ []) (accepted : ∀ entry ∈ entries, Accepted entry)
    (word : Token.ofArgument? input = some (.word input)) (passed : Passed entries options)
    (read : Settings.read e = .ok s) : Configures e (input :: options) ts ↔
      Resolves ((putAllNamed [] (entries.map partsOf)).map declaration) ts := by
  have given : sourceOf { input, mappings := entries } = .ok (.fields ((entries.map partsOf).map declaration)) := by
    simp only [sourceOf, List.isEmpty_iff, ne, if_false, declaredBy_of_accepted accepted]
    rfl
  rw [configures_iff (ofArguments_passed word passed) given read, FieldMapping.targets_declaration_iff]

theorem configures_environment (ne : entries ≠ []) (accepted : ∀ entry ∈ entries, Accepted entry)
    (word : Token.ofArgument? input = some (.word input))
    (set : e.get "FIELD_MAPPINGS" "" = String.ofList (Text.join ',' (entries.map String.toList))) :
    Configures e [input] ts ↔
      Resolves ((putAllNamed [] (entries.map fun entry => trimmed (partsOf entry))).map declaration) ts := by
  have found : Settings.read e =
      .ok (Settings.withMappings e (putAllNamed [] (entries.map fun entry => trimmed (partsOf entry)))) := by
    simp only [Settings.read, Settings.readMappings, set, FieldMappings.read_of_accepted ne accepted]
    rfl
  have given : sourceOf { input } = .ok .settings := rfl
  rw [configures_iff (ofArguments_passed word .nil) given found, FieldMapping.targets_settings_iff]
  rfl

theorem bare_of_resolves (left : Resolves ((putAllNamed [] (entries.map partsOf)).map declaration) ts)
    (right : Resolves ((putAllNamed [] (entries.map fun entry => trimmed (partsOf entry))).map declaration) ts) :
    ∀ entry ∈ entries, Bare entry := by
  have fields (named : List (String × String)) (h : Resolves ((putAllNamed [] named).map declaration) ts)
      (field : String) : .text field ∈ ts.map Prod.fst ↔ field ∈ named.map Prod.fst := by
    have once : field ∈ (putAllNamed [] named).map Prod.fst ↔ field ∈ named.map Prod.fst := by
      rw [map_fst_putAllNamed, List.mem_eraseDups]
    rw [h.map_fst, ← once]
    simp [declaration]
  intro entry member
  have there : .text (partsOf entry).1 ∈ ts.map Prod.fst :=
    (fields _ left _).mpr (List.mem_map_of_mem (List.mem_map_of_mem member))
  obtain ⟨m, other, same⟩ := List.mem_map.mp ((fields _ right _).mp there)
  obtain ⟨entry', -, rfl⟩ := List.mem_map.mp other
  rw [Bare, ← same, trimmed, Text.trim_trim]

theorem exists_resolves {parts : String → String × String}
    (known : ∀ entry ∈ entries, (TargetType.ofName? (parts entry).2).isSome) :
    ∃ ts, Resolves ((putAllNamed [] (entries.map parts)).map declaration) ts := by
  have named : FieldMapping.Named ((putAllNamed [] (entries.map parts)).map declaration) := by
    intro f member
    obtain ⟨m, there, rfl⟩ := List.mem_map.mp member
    obtain ⟨entry, given, rfl⟩ := List.mem_map.mp (mem_of_mem_putAllNamed there)
    obtain ⟨t, found⟩ := Option.isSome_iff_exists.mp (known entry given)
    exact ⟨_, t, rfl, found⟩
  obtain ⟨ts, -, resolves⟩ := FieldMapping.exists_resolve_of_named named
  exact ⟨ts, resolves⟩

/-- Options that pass entries, and the same entries in the environment, make the same mapper if no
field has blanks around it, and both make one if the types are known. If some field has such blanks,
whatever mapper is made in one way is not made in the other. -/
theorem configures_alike_iff {e' : Environment} (ne : entries ≠ []) (accepted : ∀ entry ∈ entries, Accepted entry)
    (word : Token.ofArgument? input = some (.word input)) (passed : Passed entries options)
    (read : ∃ s, Settings.read e = .ok s)
    (set : e'.get "FIELD_MAPPINGS" "" = String.ofList (Text.join ',' (entries.map String.toList))) :
    ((∀ entry ∈ entries, (TargetType.ofName? (partsOf entry).2).isSome) →
      (∃ ts, Configures e (input :: options) ts) ∧ ∃ ts, Configures e' [input] ts) ∧
    ((∀ entry ∈ entries, Bare entry) → ∀ ts, Configures e (input :: options) ts ↔ Configures e' [input] ts) ∧
    ∀ ts, Configures e (input :: options) ts → Configures e' [input] ts → ∀ entry ∈ entries, Bare entry := by
  obtain ⟨s, read⟩ := read
  have left (ts : Targets) := @configures_options e entries options input s ts ne accepted word passed read
  have right (ts : Targets) := @configures_environment e' entries input ts ne accepted word set
  refine ⟨fun known => ?made, fun bare ts => ?same, fun ts made made' => ?bare⟩
  case made =>
    simp only [left, right]
    refine ⟨exists_resolves known, exists_resolves fun entry member => ?_⟩
    rw [trimmed, TargetType.ofName?_trim]
    exact known entry member
  case same =>
    have named : (entries.map fun entry => trimmed (partsOf entry)) =
        (entries.map partsOf).map (Prod.map id Text.trim) := by
      rw [List.map_map]
      exact List.map_congr_left fun entry member => Prod.ext (bare entry member) rfl
    have types : putAllNamed [] ((entries.map partsOf).map (Prod.map id Text.trim)) =
        (putAllNamed [] (entries.map partsOf)).map (Prod.map id Text.trim) := putAllNamed_map_snd Text.trim [] _
    rw [left, right, named, types, FieldMapping.resolves_trimmed_types]
  case bare => exact bare_of_resolves ((left ts).mp made) ((right ts).mp made')

theorem configures_alike_iff_padded_type :
    let e : Environment := [("FIELD_MAPPINGS", "speed: Int ,gear:str,speed:double")]
    let options := ["--mapping=speed: Int ", "--mapping", "gear:str", "--mapping=speed:double"]
    (∀ ts, Configures [] ("records.json" :: options) ts ↔ Configures e ["records.json"] ts) ∧
      ∃ ts, Configures e ["records.json"] ts := by
  intro e options
  have accepted : ∀ entry ∈ ["speed: Int ", "gear:str", "speed:double"], Accepted entry := by
    simp only [List.forall_mem_cons]
    exact ⟨⟨by decide, _, rfl⟩, ⟨by decide, _, rfl⟩, ⟨by decide, _, rfl⟩, by simp⟩
  have passed : Passed ["speed: Int ", "gear:str", "speed:double"] options :=
    .attached _ (.behind rfl (.attached _ .nil))
  obtain ⟨made, same, -⟩ := @configures_alike_iff [] _ _ "records.json" e (by simp) accepted rfl passed ⟨_, rfl⟩ rfl
  exact ⟨same (by decide +kernel), (made (by decide +kernel)).2⟩

/-- A blank before the colon: the environment declares the field, and the option one that no record
has. -/
theorem not_configures_alike :
    ¬ ∀ (entries options : List String) (input : String) (e e' : Environment), entries ≠ [] →
      (∀ entry ∈ entries, Accepted entry) → Token.ofArgument? input = some (.word input) → Passed entries options →
      (∃ s, Settings.read e = .ok s) →
      e'.get "FIELD_MAPPINGS" "" = String.ofList (Text.join ',' (entries.map String.toList)) →
        ∀ ts, Configures e (input :: options) ts ↔ Configures e' [input] ts := by
  intro alike
  let e : Environment := [("FIELD_MAPPINGS", "speed :integer")]
  have accepted : ∀ entry ∈ ["speed :integer"], Accepted entry :=
    List.forall_mem_singleton.mpr ⟨by decide, _, rfl⟩
  have passed : Passed ["speed :integer"] ["--mapping=speed :integer"] := .attached _ .nil
  have right (ts : Targets) := @configures_environment e _ "records.json" ts (by simp) accepted rfl rfl
  have left (ts : Targets) := @configures_options [] _ _ "records.json" _ ts (by simp) accepted rfl passed rfl
  have same := alike _ _ "records.json" [] e (by simp) accepted rfl passed ⟨_, rfl⟩ rfl
  obtain ⟨ts, made⟩ := @exists_resolves ["speed :integer"] partsOf (by decide +kernel)
  have both := (right ts).mp ((same ts).mp ((left ts).mpr made))
  exact absurd (bare_of_resolves made both "speed :integer" List.mem_cons_self) (by decide +kernel)

end Configured

end CommandLine

end RecordPipeline

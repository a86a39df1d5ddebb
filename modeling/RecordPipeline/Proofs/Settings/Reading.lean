import RecordPipeline.Proofs.Settings.Mappings
import RecordPipeline.Proofs.Text.Blank
import RecordPipeline.Proofs.Value.Named
set_option autoImplicit false

/-!
What field mappings are read from a text. Each of its entries is blank, or names a field and a type,
or cannot be read; a text is read when no entry is of the last kind, and then into what its entries
name. Blanks do not count, so mappings have many spellings, and all of them are read back.
-/

namespace RecordPipeline.FieldMappings

open Text

structure Entries (raw : String) (entries : List (List Char)) : Prop where
  joined : raw.toList = join ',' entries
  ne : entries ≠ []
  plain : ∀ entry ∈ entries, ',' ∉ entry

def Blank (cs : List Char) : Prop := ∀ c ∈ cs, isBlank c = true

instance (cs : List Char) : Decidable (Blank cs) := List.decidableBAll (fun c => isBlank c = true) cs

/-- An entry that is not blank and has no colon, or nothing but blanks after its first one. -/
def Unreadable (entry : List Char) : Prop :=
  ¬ Blank entry ∧ (':' ∉ entry ∨ ∃ front back, entry = front ++ ':' :: back ∧ ':' ∉ front ∧ Blank back)

/-- A field and a type without blanks around them and without the characters that separate them from
others. -/
structure Proper (m : String × String) : Prop where
  field : Stripped m.1.toList m.1.toList
  typeName : Stripped m.2.toList m.2.toList
  typed : m.2 ≠ ""
  field_plain : ',' ∉ m.1.toList ∧ ':' ∉ m.1.toList
  typeName_plain : ',' ∉ m.2.toList

def Around (t cs : List Char) : Prop := ∃ front back, cs = front ++ (t ++ back) ∧ Blank front ∧ Blank back

def Spells (entry : List Char) (m : String × String) : Prop :=
  ∃ front back, entry = front ++ ':' :: back ∧ Around m.1.toList front ∧ Around m.2.toList back

inductive Spelled : List (List Char) → List (String × String) → Prop where
  | nil : Spelled [] []
  | blank {entry entries named} : Blank entry → Spelled entries named → Spelled (entry :: entries) named
  | entry {entry entries m named} : Spells entry m → Spelled entries named → Spelled (entry :: entries) (m :: named)

/-- What comes of mappings when a field may be named more than once: it stands where it is named
first, with the type that it is given last. -/
structure Merges (named mappings : List (String × String)) : Prop where
  fields : mappings.map Prod.fst = (named.map Prod.fst).eraseDups
  last : ∀ field, mappings.lookup field = named.reverse.lookup field

/-- What reading makes of entries. One that cannot be read is reported, the first of them, and
nothing else is; if there is none, mappings are found, and they are what the entries come to. -/
structure Reads (entries : List (List Char)) (outcome : Except SettingsFault (List (String × String))) : Prop where
  fails : (∃ fault, outcome = .error fault) ↔ ∃ entry ∈ entries, Unreadable entry
  first : ∀ fault, outcome = .error fault → ∃ before entry after, entries = before ++ entry :: after ∧
    (∀ earlier ∈ before, ¬ Unreadable earlier) ∧ Unreadable entry ∧
    fault = .mappingWithoutType (String.ofList (trimChars entry))
  proper : ∀ mappings, outcome = .ok mappings → ∀ m ∈ mappings, Proper m
  merged : ∀ mappings, outcome = .ok mappings →
    ∃ named, (∀ m ∈ named, Proper m) ∧ Spelled entries named ∧ Merges named mappings

theorem entries_splitAll (raw : String) : Entries raw (splitAll ',' raw.toList) where
  joined := (join_splitAll ',' raw.toList).symm
  ne := splitAll_ne_nil ',' raw.toList
  plain _ := not_mem_of_mem_splitAll

theorem Entries.read_eq {raw : String} {entries : List (List Char)} (h : Entries raw entries) :
    read raw = readEntries [] entries := by
  rw [read, h.joined, splitAll_join h.ne h.plain]

section Entry

variable {entry front back : List Char} {m : String × String}

theorem Blank.not_mem (blank : Blank front) {c : Char} (visible : isBlank c = false) : c ∉ front := by
  intro member
  rw [blank c member] at visible
  exact Bool.noConfusion visible

theorem Around.mem_iff {t cs : List Char} (h : Around t cs) {c : Char} (visible : isBlank c = false) :
    c ∈ cs ↔ c ∈ t := by
  obtain ⟨front, back, rfl, before, after⟩ := h
  simp only [List.mem_append, before.not_mem visible, after.not_mem visible, false_or, or_false]

theorem readEntry_of_blank (blank : Blank entry) : readEntry entry = .ok none := by
  rw [readEntry, trimChars_eq_nil_iff.mpr blank]
  rfl

/-- The first colon separates the field from the type, whatever blanks there are. -/
theorem readEntry_append (unmarked : ':' ∉ front) (back : List Char) :
    readEntry (front ++ ':' :: back) =
      if trimChars back = [] then .error (.mappingWithoutType (String.ofList (trimChars (front ++ ':' :: back))))
      else .ok (some (String.ofList (trimChars front), String.ofList (trimChars back))) := by
  have visible : isBlank ':' = false := by decide
  have kept : ':' ∉ front.dropWhile isBlank := fun h => unmarked ((List.dropWhile_sublist isBlank).subset h)
  have parts := trimChars_append_cons front back visible
  have bare : trimChars back = [] ↔ back.rdropWhile isBlank = [] := by
    rw [trimChars_eq_nil_iff, List.rdropWhile_eq_nil_iff]
  have typeName := trimChars_rdropWhile back
  simp only [bare]
  cases rest : back.rdropWhile isBlank with
  | nil => simp [readEntry, parts, rest, cut_append ':' _ _ kept]
  | cons c cs =>
    rw [rest] at typeName
    simp [readEntry, parts, rest, cut_append ':' _ _ kept, typeName]

theorem readEntry_of_unreadable (h : Unreadable entry) :
    readEntry entry = .error (.mappingWithoutType (String.ofList (trimChars entry))) := by
  obtain ⟨full, colonless | ⟨front, back, rfl, unmarked, blank⟩⟩ := h
  · have some : trimChars entry ≠ [] := fun empty => full (trimChars_eq_nil_iff.mp empty)
    have unmarked : ':' ∉ trimChars entry := fun h => colonless ((stripped_trimChars entry).mem h)
    simp [readEntry, some, cut_of_not_mem ':' _ unmarked]
  · rw [readEntry_append unmarked, if_pos (trimChars_eq_nil_iff.mpr blank)]

theorem readEntry_of_spells (proper : Proper m) (h : Spells entry m) : readEntry entry = .ok (some m) := by
  obtain ⟨front, back, rfl, field, typeName⟩ := h
  have unmarked : ':' ∉ front := (field.mem_iff (by decide)).not.mpr proper.field_plain.2
  have first : m.1.toList = trimChars front := Stripped.eq_trimChars ⟨field, proper.field.first, proper.field.last⟩
  have second : m.2.toList = trimChars back :=
    Stripped.eq_trimChars ⟨typeName, proper.typeName.first, proper.typeName.last⟩
  have typed : m.2.toList ≠ [] := fun empty => proper.typed (String.toList_eq_nil_iff.mp empty)
  rw [readEntry_append unmarked, ← first, ← second, if_neg typed, String.ofList_toList, String.ofList_toList]

theorem entry_cases (plain : ',' ∉ entry) : Blank entry ∨ Unreadable entry ∨ ∃ m, Proper m ∧ Spells entry m := by
  by_cases blank : Blank entry
  · exact .inl blank
  by_cases colon : ':' ∈ entry
  case neg => exact .inr (.inl ⟨blank, .inl colon⟩)
  obtain ⟨front, back, rfl, unmarked⟩ := List.eq_append_cons_of_mem colon
  by_cases untyped : Blank back
  · exact .inr (.inl ⟨blank, .inr ⟨front, back, rfl, unmarked, untyped⟩⟩)
  have field := stripped_trimChars front
  have typeName := stripped_trimChars back
  have apart : ',' ∉ front ∧ ',' ∉ back := by simpa using plain
  refine .inr (.inr ⟨(String.ofList (trimChars front), String.ofList (trimChars back)), ?proper, ?spells⟩)
  case proper =>
    constructor
    case field => simpa using field.trimmed
    case typeName => simpa using typeName.trimmed
    case typed => simpa [trimChars_eq_nil_iff, Blank] using untyped
    case field_plain => simpa using ⟨fun h => apart.1 (field.mem h), fun h => unmarked (field.mem h)⟩
    case typeName_plain => simpa using fun h => apart.2 (typeName.mem h)
  case spells =>
    refine ⟨front, back, rfl, ?_, ?_⟩
    · simpa [Around, Blank] using field.around
    · simpa [Around, Blank] using typeName.around

end Entry

def putAll (found named : List (String × String)) : List (String × String) :=
  named.foldl (fun mappings m => putNamed m.1 m.2 mappings) found

section Entries

variable {entries : List (List Char)} {named : List (String × String)}

theorem readEntries_append (h : Spelled entries named) (proper : ∀ m ∈ named, Proper m)
    (found : List (String × String)) (rest : List (List Char)) :
    readEntries found (entries ++ rest) = readEntries (putAll found named) rest := by
  induction h generalizing found with
  | nil => rfl
  | blank blank _ ih =>
    rw [List.cons_append, readEntries, readEntry_of_blank blank]
    exact ih proper found
  | entry spells _ ih =>
    obtain ⟨first, others⟩ := List.forall_mem_cons.mp proper
    rw [List.cons_append, readEntries, readEntry_of_spells first spells]
    exact ih others _

theorem readEntries_of_spelled (h : Spelled entries named) (proper : ∀ m ∈ named, Proper m)
    (found : List (String × String)) : readEntries found entries = .ok (putAll found named) := by
  simpa [readEntries] using readEntries_append h proper found []

theorem exists_spelled (plain : ∀ entry ∈ entries, ',' ∉ entry) (readable : ∀ entry ∈ entries, ¬ Unreadable entry) :
    ∃ named, (∀ m ∈ named, Proper m) ∧ Spelled entries named := by
  induction entries with
  | nil => exact ⟨[], by simp, .nil⟩
  | cons entry entries ih =>
    obtain ⟨first, others⟩ := List.forall_mem_cons.mp plain
    obtain ⟨here, later⟩ := List.forall_mem_cons.mp readable
    obtain ⟨named, all, spelled⟩ := ih others later
    obtain blank | unreadable | ⟨m, proper, spells⟩ := entry_cases first
    · exact ⟨named, all, spelled.blank blank⟩
    · exact absurd unreadable here
    · exact ⟨m :: named, List.forall_mem_cons.mpr ⟨proper, all⟩, spelled.entry spells⟩

theorem Spelled.plain (h : Spelled entries named) (proper : ∀ m ∈ named, Proper m) :
    ∀ entry ∈ entries, ',' ∉ entry := by
  induction h with
  | nil => simp
  | blank blank _ ih => exact List.forall_mem_cons.mpr ⟨blank.not_mem (by decide), ih proper⟩
  | entry spells _ ih =>
    obtain ⟨first, others⟩ := List.forall_mem_cons.mp proper
    obtain ⟨front, back, rfl, field, typeName⟩ := spells
    refine List.forall_mem_cons.mpr ⟨?_, ih others⟩
    have visible : isBlank ',' = false := by decide
    simp [field.mem_iff visible, typeName.mem_iff visible, first.field_plain.1, first.typeName_plain]

end Entries

section Merging

variable {named : List (String × String)}

theorem merges_putAll (named : List (String × String)) : Merges named (putAll [] named) :=
  ⟨map_fst_putAllNamed named, lookup_putAllNamed named⟩

theorem putAll_of_nodup (h : (named.map Prod.fst).Nodup) : putAll [] named = named := putAllNamed_of_nodup h

theorem mem_of_mem_putAll {m : String × String} (h : m ∈ putAll [] named) : m ∈ named := mem_of_mem_putAllNamed h

end Merging

theorem Entries.reads {raw : String} {entries : List (List Char)} (h : Entries raw entries) :
    Reads entries (read raw) := by
  classical
  rw [h.read_eq]
  cases found : entries.find? (fun entry => decide (Unreadable entry)) with
  | none =>
    have readable : ∀ entry ∈ entries, ¬ Unreadable entry := by simpa using found
    obtain ⟨named, proper, spelled⟩ := exists_spelled h.plain readable
    rw [readEntries_of_spelled spelled proper]
    constructor
    case fails => exact ⟨nofun, fun ⟨entry, member, unreadable⟩ => absurd unreadable (readable entry member)⟩
    case first => nofun
    case proper =>
      rintro _ ⟨⟩ m member
      exact proper m (mem_of_mem_putAll member)
    case merged =>
      rintro _ ⟨⟩
      exact ⟨named, proper, spelled, merges_putAll named⟩
  | some entry =>
    -- the entries before the first one that cannot be read name mappings, which are lost
    obtain ⟨unreadable, before, after, rfl, earlier⟩ := List.find?_eq_some_iff_append.mp found
    have unreadable : Unreadable entry := by simpa using unreadable
    have readable : ∀ entry ∈ before, ¬ Unreadable entry := by simpa using earlier
    have plain : ∀ entry ∈ before, ',' ∉ entry := fun entry member => h.plain entry (List.mem_append_left _ member)
    obtain ⟨named, proper, spelled⟩ := exists_spelled plain readable
    have fails : readEntries [] (before ++ entry :: after) =
        .error (.mappingWithoutType (String.ofList (trimChars entry))) := by
      rw [readEntries_append spelled proper, readEntries, readEntry_of_unreadable unreadable]
      rfl
    rw [fails]
    constructor
    case fails => exact ⟨fun _ => ⟨entry, by simp, unreadable⟩, fun _ => ⟨_, rfl⟩⟩
    case first =>
      rintro _ ⟨⟩
      exact ⟨before, entry, after, rfl, readable, unreadable, rfl⟩
    case proper => nofun
    case merged => nofun

theorem read_join {mappings : List (String × String)} (differ : (mappings.map Prod.fst).Nodup)
    (proper : ∀ m ∈ mappings, Proper m) {entries : List (List Char)} (h : Spelled entries mappings) :
    read (String.ofList (join ',' entries)) = .ok mappings := by
  by_cases none : entries = []
  · subst none
    cases h
    rfl
  · have parts : Entries (String.ofList (join ',' entries)) entries :=
      ⟨String.toList_ofList, none, h.plain proper⟩
    rw [parts.read_eq, readEntries_of_spelled h proper, putAll_of_nodup differ]

/-- Reading fails exactly at an entry that cannot be read, and finds what the entries name
otherwise. Conversely, mappings whose fields differ are found from each of their spellings, in their
order. -/
theorem read_exact :
    (∀ raw, ∃ entries, Entries raw entries) ∧
    (∀ raw entries, Entries raw entries → Reads entries (read raw)) ∧
    ∀ mappings, (mappings.map Prod.fst).Nodup → (∀ m ∈ mappings, Proper m) →
      ∀ entries, Spelled entries mappings → read (String.ofList (join ',' entries)) = .ok mappings :=
  ⟨fun raw => ⟨_, entries_splitAll raw⟩, fun _ _ h => h.reads, fun _ differ proper _ => read_join differ proper⟩

theorem read_exact_blanks :
    (∃ fault, read "speed:integer,gear: " = .error fault) ∧
      read " speed : integer ,," = .ok [("speed", "integer")] := by
  obtain ⟨-, reads, back⟩ := read_exact
  constructor
  · have entries : Entries "speed:integer,gear: " ["speed:integer".toList, "gear: ".toList] :=
      ⟨rfl, by simp, by simp⟩
    have unreadable : Unreadable "gear: ".toList :=
      ⟨by decide, .inr ⟨"gear".toList, [' '], rfl, by simp, by decide⟩⟩
    exact (reads _ _ entries).fails.mpr ⟨_, by simp, unreadable⟩
  · have proper : Proper ("speed", "integer") :=
      ⟨stripped_iff.mpr rfl, stripped_iff.mpr rfl, by simp, by simp, by simp⟩
    have space : Blank [' '] := by decide
    have spells : Spells " speed : integer ".toList ("speed", "integer") :=
      ⟨" speed ".toList, " integer ".toList, rfl, ⟨[' '], [' '], rfl, space, space⟩,
        ⟨[' '], [' '], rfl, space, space⟩⟩
    have gap : Blank [] := by decide
    have joined : " speed : integer ,," = String.ofList (join ',' [" speed : integer ".toList, [], []]) := rfl
    rw [joined]
    exact back _ (by simp) (by simpa using proper) _ (.entry spells (.blank gap (.blank gap .nil)))

end RecordPipeline.FieldMappings

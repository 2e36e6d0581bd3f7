import UrlHandoff.Proofs.DocumentContent
import UrlHandoff.Settings

namespace UrlHandoff.Settings

open Document

inductive Becomes {α : Type} (Holds : Datum → α → Prop) (old : α) : Option Datum → α → Prop
  | absent : Becomes Holds old none old
  | present {datum : Datum} {new : α} (holds : Holds datum new) :
      Becomes Holds old (some datum) new

inductive HoldsText : Datum → String → Prop
  | text (value : String) : HoldsText (.scalar (.text value)) value

inductive HoldsSeconds : Datum → Nat → Prop
  | seconds (value : Nat) : HoldsSeconds (.scalar (.integer value)) value

inductive HoldsSome {α : Type} (Holds : Datum → α → Prop) : Datum → Option α → Prop
  | value {datum : Datum} {value : α} (holds : Holds datum value) :
      HoldsSome Holds datum (some value)

def HoldsEntries {α : Type} (Holds : Datum → α → Prop) (item? : String → Option Datum)
    (dictionary : Dictionary α) : Prop :=
  ∀ name, Becomes (HoldsSome Holds) none (item? name) (dictionary.get? name)

inductive HoldsTable : Datum → Dictionary String → Prop
  | table {item? : String → Option Datum} {texts : Dictionary String}
      (holds : HoldsEntries HoldsText item? texts) : HoldsTable (.table item?) texts
  | moment (value : Moment) :
      HoldsTable (.scalar (.moment value)) (.ofList [(momentKey, value.text)])

inductive HoldsTables : Datum → Tables → Prop
  | table {item? : String → Option Datum} {tables : Tables}
      (holds : HoldsEntries HoldsTable item? tables) : HoldsTables (.table item?) tables

structure Change (document : String → Option Datum) (old new : Settings) : Prop where
  defaultUrl : Becomes (HoldsSome HoldsText) old.defaultUrl (document "default_url") new.defaultUrl
  graceSeconds : Becomes HoldsSeconds old.graceSeconds (document "exit_grace_secs") new.graceSeconds
  translations : Becomes HoldsTables old.translations (document "translations") new.translations

/-- What a document says. A key that is absent stands for the standard setting. -/
structure Says (document : String → Option Datum) (settings : Settings) : Prop where
  defaultUrl : Becomes (HoldsSome HoldsText) none (document "default_url") settings.defaultUrl
  graceSeconds : Becomes HoldsSeconds 10 (document "exit_grace_secs") settings.graceSeconds
  translations : Becomes HoldsTables ∅ (document "translations") settings.translations

section Becomes

variable {α : Type} {Holds : Datum → α → Prop}

theorem becomes_none (old new : α) : Becomes Holds old none new ↔ new = old := by
  constructor
  · rintro ⟨⟩
    rfl
  · rintro rfl
    exact .absent

theorem becomes_some (old new : α) (datum : Datum) :
    Becomes Holds old (some datum) new ↔ Holds datum new := by
  constructor
  · rintro ⟨⟩
    assumption
  · exact .present

theorem holdsSome_iff (datum : Datum) (found : Option α) :
    HoldsSome Holds datum found ↔ ∃ value, Holds datum value ∧ found = some value := by
  constructor
  · rintro ⟨holds⟩
    exact ⟨_, holds, rfl⟩
  · rintro ⟨value, holds, rfl⟩
    exact .value holds

theorem becomes_cons {entry : Key × Node} {rest : Entries} (distinct : Distinct (entry :: rest))
    (name : String) (old new : α) :
    Becomes Holds old (content (entry :: rest) name) new ↔
      ∃ between, Becomes Holds old (content [entry] name) between ∧
        Becomes Holds between (content rest name) new := by
  by_cases h : entry.1.name = name
  · subst h
    simp [content, content_rest distinct, becomes_none]
  · simp [content, h, becomes_none]

end Becomes

theorem map_eq_ok_iff {α β ε : Type} (f : α → β) (result : Except ε α) (b : β) :
    result.map f = .ok b ↔ ∃ a, result = .ok a ∧ f a = b := by
  cases result <;> simp [Except.map]

theorem error_eq_ok_iff {α ε : Type} {error : ε} {value : α} {holds : Prop} (h : ¬holds) :
    (.error error : Except ε α) = .ok value ↔ holds := by
  constructor
  · intro same
    cases same
  · intro held
    exact absurd held h

theorem decodeText_eq_ok_iff (key : Key) (node : Node) (text : String) :
    decodeText key node = .ok text ↔ HoldsText node.datum text := by
  constructor
  · intro h
    unfold decodeText at h
    split at h
    · cases h
      exact .text _
    · cases h
  · intro h
    generalize hdatum : node.datum = datum at h
    cases h with
    | text value =>
      obtain ⟨span, rfl⟩ := (datum_eq_scalar_iff node _).mp hdatum
      rfl

theorem decodeSeconds_eq_ok_iff (key : Key) (node : Node) (seconds : Nat) :
    decodeSeconds key node = .ok seconds ↔ HoldsSeconds node.datum seconds := by
  constructor
  · intro h
    unfold decodeSeconds at h
    split at h
    · cases h
      exact .seconds _
    · cases h
  · intro h
    generalize hdatum : node.datum = datum at h
    cases h with
    | seconds value =>
      obtain ⟨span, rfl⟩ := (datum_eq_scalar_iff node _).mp hdatum
      rfl

theorem foldlM_cons_eq_ok_iff {α β ε : Type} (step : β → α → Except ε β) (item : α)
    (rest : List α) (start last : β) :
    (item :: rest).foldlM step start = .ok last ↔
      ∃ next, step start item = .ok next ∧ rest.foldlM step next = .ok last := by
  rw [List.foldlM_cons]
  cases step start item with
  | error error =>
    constructor
    · intro h
      cases h
    · rintro ⟨next, h, _⟩
      cases h
  | ok next =>
    constructor
    · intro h
      exact ⟨next, rfl, h⟩
    · rintro ⟨_, same, h⟩
      cases same
      exact h

section Entries

variable {α : Type} {decode : Key → Node → Except Fault α} {Holds : Datum → α → Prop}

def addEntry (decode : Key → Node → Except Fault α) (done : Dictionary α) (entry : Key × Node) :
    Except Fault (Dictionary α) :=
  (decode entry.1 entry.2).map fun value => done.insert entry.1.name value

theorem becomes_insert_iff {entry : Key × Node} {rest : Entries}
    (distinct : Distinct (entry :: rest)) (start last : Dictionary α) :
    (∃ value, Holds entry.2.datum value ∧ ∀ name, Becomes (HoldsSome Holds)
        ((start.insert entry.1.name value).get? name) (content rest name) (last.get? name)) ↔
      ∀ name, Becomes (HoldsSome Holds) (start.get? name) (content (entry :: rest) name)
        (last.get? name) := by
  have own : content (entry :: rest) entry.1.name = some entry.2.datum := if_pos rfl
  have other {name : String} (h : entry.1.name ≠ name) :
      content (entry :: rest) name = content rest name := if_neg h
  constructor
  · rintro ⟨value, holds, becomes⟩ name
    have later := becomes name
    rw [Dictionary.get?_insert] at later
    by_cases h : entry.1.name = name
    · subst h
      rw [if_pos rfl, content_rest distinct, becomes_none] at later
      rw [own, later]
      exact .present (.value holds)
    · rw [if_neg h] at later
      rw [other h]
      exact later
  · intro becomes
    have first := becomes entry.1.name
    rw [own, becomes_some, holdsSome_iff] at first
    obtain ⟨value, holds, found⟩ := first
    refine ⟨value, holds, fun name => ?_⟩
    rw [Dictionary.get?_insert]
    by_cases h : entry.1.name = name
    · subst h
      rw [if_pos rfl, content_rest distinct, becomes_none]
      exact found
    · rw [if_neg h, ← other h]
      exact becomes name

theorem foldlM_addEntry_eq_ok_iff
    (h : ∀ key node, Proper node → ∀ value, decode key node = .ok value ↔ Holds node.datum value)
    {entries : Entries} (proper : ProperEntries entries) (start last : Dictionary α) :
    entries.foldlM (addEntry decode) start = .ok last ↔
      ∀ name, Becomes (HoldsSome Holds) (start.get? name) (content entries name)
        (last.get? name) := by
  induction entries generalizing start with
  | nil =>
    simp only [content, becomes_none]
    constructor
    · intro same name
      cases same
      rfl
    · intro same
      rw [Dictionary.ext_get? same]
      rfl
  | cons entry rest ih =>
    obtain ⟨first, hrest⟩ := proper.of_cons
    rw [foldlM_cons_eq_ok_iff, ← becomes_insert_iff proper.distinct]
    simp only [addEntry, map_eq_ok_iff, h entry.1 entry.2 first, ih hrest]
    constructor
    · rintro ⟨_, ⟨value, holds, rfl⟩, becomes⟩
      exact ⟨value, holds, becomes⟩
    · rintro ⟨value, holds, becomes⟩
      exact ⟨_, ⟨value, holds, rfl⟩, becomes⟩

theorem decodeEntries_eq_ok_iff
    (h : ∀ key node, Proper node → ∀ value, decode key node = .ok value ↔ Holds node.datum value)
    {entries : Entries} (proper : ProperEntries entries) (dictionary : Dictionary α) :
    decodeEntries decode entries = .ok dictionary ↔
      HoldsEntries Holds (content entries) dictionary :=
  foldlM_addEntry_eq_ok_iff h proper ∅ dictionary

end Entries

theorem holdsTable_table (item? : String → Option Datum) (texts : Dictionary String) :
    HoldsTable (.table item?) texts ↔ HoldsEntries HoldsText item? texts := by
  constructor
  · rintro ⟨holds⟩
    exact holds
  · exact .table

theorem holdsTables_table (item? : String → Option Datum) (tables : Tables) :
    HoldsTables (.table item?) tables ↔ HoldsEntries HoldsTable item? tables := by
  constructor
  · rintro ⟨holds⟩
    exact holds
  · exact .table

theorem decodeTable_eq_ok_iff (key : Key) (node : Node) (proper : Proper node)
    (texts : Dictionary String) :
    decodeTable key node = .ok texts ↔ HoldsTable node.datum texts := by
  cases node with
  | table origin entries =>
    rw [decodeTable, Node.datum, holdsTable_table]
    exact decodeEntries_eq_ok_iff (fun key node _ => decodeText_eq_ok_iff key node)
      (.of_table proper) texts
  | scalar value span =>
    cases value with
    | moment value =>
      constructor
      · intro h
        cases h
        exact .moment value
      · rintro ⟨⟩
        rfl
    | _ => exact error_eq_ok_iff (by rintro ⟨⟩)
  | array items span => exact error_eq_ok_iff (by rintro ⟨⟩)
  | tables elements => exact error_eq_ok_iff (by rintro ⟨⟩)

theorem decodeTables_eq_ok_iff (key : Key) (node : Node) (proper : Proper node)
    (tables : Tables) : decodeTables key node = .ok tables ↔ HoldsTables node.datum tables := by
  cases node with
  | table origin entries =>
    rw [decodeTables, Node.datum, holdsTables_table]
    exact decodeEntries_eq_ok_iff decodeTable_eq_ok_iff (.of_table proper) tables
  | scalar value span => cases value <;> exact error_eq_ok_iff (by rintro ⟨⟩)
  | array items span => exact error_eq_ok_iff (by rintro ⟨⟩)
  | tables elements => exact error_eq_ok_iff (by rintro ⟨⟩)

theorem change_iff (document : String → Option Datum) (old new : Settings) :
    Change document old new ↔
      Becomes (HoldsSome HoldsText) old.defaultUrl (document "default_url") new.defaultUrl ∧
        Becomes HoldsSeconds old.graceSeconds (document "exit_grace_secs") new.graceSeconds ∧
          Becomes HoldsTables old.translations (document "translations") new.translations := by
  constructor
  · rintro ⟨url, grace, translations⟩
    exact ⟨url, grace, translations⟩
  · rintro ⟨url, grace, translations⟩
    exact ⟨url, grace, translations⟩

theorem says_iff_change (document : String → Option Datum) (settings : Settings) :
    Says document settings ↔ Change document {} settings := by
  constructor
  · rintro ⟨url, grace, translations⟩
    exact ⟨url, grace, translations⟩
  · rintro ⟨url, grace, translations⟩
    exact ⟨url, grace, translations⟩

theorem eq_iff (a b : Settings) :
    a = b ↔ a.defaultUrl = b.defaultUrl ∧ a.graceSeconds = b.graceSeconds ∧
      a.translations = b.translations := by
  cases a
  cases b
  simp

theorem decodeSetting_eq_ok_iff {entry : Key × Node} (proper : Proper entry.2)
    (old new : Settings) :
    decodeSetting old entry = .ok new ↔ Change (content [entry]) old new := by
  rw [change_iff, decodeSetting]
  split
  next h =>
    simp only [content_singleton, h, map_eq_ok_iff, decodeText_eq_ok_iff, String.reduceEq, if_true, if_false,
      becomes_some, becomes_none, holdsSome_iff]
    constructor
    · rintro ⟨text, holds, rfl⟩
      exact ⟨⟨text, holds, rfl⟩, rfl, rfl⟩
    · rintro ⟨⟨text, holds, url⟩, grace, translations⟩
      refine ⟨text, holds, ?_⟩
      rw [← url, ← grace, ← translations]
  next h =>
    simp only [content_singleton, h, map_eq_ok_iff, decodeSeconds_eq_ok_iff, String.reduceEq, if_true,
      if_false, becomes_some, becomes_none]
    constructor
    · rintro ⟨seconds, holds, rfl⟩
      exact ⟨rfl, holds, rfl⟩
    · rintro ⟨url, holds, translations⟩
      refine ⟨_, holds, ?_⟩
      rw [← url, ← translations]
  next h =>
    simp only [content_singleton, h, map_eq_ok_iff, decodeTables_eq_ok_iff _ _ proper, String.reduceEq,
      if_true, if_false, becomes_some, becomes_none]
    constructor
    · rintro ⟨tables, holds, rfl⟩
      exact ⟨rfl, rfl, holds⟩
    · rintro ⟨url, grace, holds⟩
      refine ⟨_, holds, ?_⟩
      rw [← url, ← grace]
  next hurl hgrace htranslations =>
    simp only [content_singleton, if_neg hurl, if_neg hgrace, if_neg htranslations, becomes_none,
      Except.ok.injEq]
    rw [eq_comm, eq_iff]

theorem foldlM_decodeSetting_eq_ok_iff {entries : Entries} (proper : ProperEntries entries)
    (start last : Settings) :
    entries.foldlM decodeSetting start = .ok last ↔ Change (content entries) start last := by
  induction entries generalizing start with
  | nil =>
    simp only [change_iff, content, becomes_none, List.foldlM_nil, pure, Except.pure,
      Except.ok.injEq]
    rw [eq_comm, eq_iff]
  | cons entry rest ih =>
    obtain ⟨first, hrest⟩ := proper.of_cons
    rw [foldlM_cons_eq_ok_iff]
    simp only [decodeSetting_eq_ok_iff first, ih hrest, change_iff, becomes_cons proper.distinct]
    constructor
    · rintro ⟨next, ⟨url, grace, translations⟩, url', grace', translations'⟩
      exact ⟨⟨_, url, url'⟩, ⟨_, grace, grace'⟩, _, translations, translations'⟩
    · rintro ⟨⟨url, hurl, url'⟩, ⟨grace, hgrace, grace'⟩, translations, htables, tables'⟩
      exact ⟨⟨url, grace, translations⟩, ⟨hurl, hgrace, htables⟩, url', grace', tables'⟩

theorem decode_eq_ok_iff {entries : Entries} (proper : ProperEntries entries)
    (settings : Settings) : decode entries = .ok settings ↔ Says (content entries) settings := by
  rw [says_iff_change]
  exact foldlM_decodeSetting_eq_ok_iff proper {} settings

end UrlHandoff.Settings

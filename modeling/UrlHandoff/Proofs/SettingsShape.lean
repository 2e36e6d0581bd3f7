import UrlHandoff.Settings

namespace UrlHandoff.Settings

open Document

def IsText (node : Node) : Prop := ∃ value span, node = .scalar (.text value) span

def IsSeconds (node : Node) : Prop :=
  ∃ (value : Nat) (span : Span), node = .scalar (.integer value) span

def IsTable (node : Node) : Prop :=
  (∃ value span, node = .scalar (.moment value) span) ∨
    ∃ origin entries, node = .table origin entries ∧ ∀ entry ∈ entries, IsText entry.2

def IsTables (node : Node) : Prop :=
  ∃ origin entries, node = .table origin entries ∧ ∀ entry ∈ entries, IsTable entry.2

theorem isTable_table (origin : Origin) (entries : Entries) :
    IsTable (.table origin entries) ↔ ∀ entry ∈ entries, IsText entry.2 := by
  constructor
  · rintro (⟨_, _, h⟩ | ⟨_, _, h, texts⟩)
    · cases h
    · cases h
      exact texts
  · intro texts
    exact .inr ⟨origin, entries, rfl, texts⟩

theorem isTables_table (origin : Origin) (entries : Entries) :
    IsTables (.table origin entries) ↔ ∀ entry ∈ entries, IsTable entry.2 := by
  constructor
  · rintro ⟨_, _, h, tables⟩
    cases h
    exact tables
  · intro tables
    exact ⟨origin, entries, rfl, tables⟩

def Fits (entry : Key × Node) : Prop :=
  (entry.1.name = "default_url" → IsText entry.2) ∧
    (entry.1.name = "exit_grace_secs" → IsSeconds entry.2) ∧
      (entry.1.name = "translations" → IsTables entry.2)

theorem foldlM_succeeds_iff {α β ε : Type} (step : β → α → Except ε β) (Good : α → Prop)
    (h : ∀ done item, (∃ next, step done item = .ok next) ↔ Good item) (items : List α)
    (start : β) :
    (∃ last, items.foldlM step start = .ok last) ↔ ∀ item ∈ items, Good item := by
  induction items generalizing start with
  | nil => exact ⟨fun _ item hi => absurd hi List.not_mem_nil, fun _ => ⟨start, rfl⟩⟩
  | cons item rest ih =>
    rw [List.foldlM_cons, List.forall_mem_cons, ← h start item]
    cases hs : step start item with
    | error error =>
      constructor
      · rintro ⟨last, hl⟩
        cases hl
      · rintro ⟨⟨next, hn⟩, _⟩
        cases hn
    | ok next =>
      change (∃ last, rest.foldlM step next = .ok last) ↔ _
      rw [ih next]
      exact ⟨fun hr => ⟨⟨next, rfl⟩, hr⟩, fun hr => hr.2⟩

theorem map_succeeds_iff {α β ε : Type} (f : α → β) (result : Except ε α) :
    (∃ value, result.map f = .ok value) ↔ ∃ value, result = .ok value := by
  cases result <;> simp [Except.map]

theorem decodeText_succeeds_iff (key : Key) (node : Node) :
    (∃ value, decodeText key node = .ok value) ↔ IsText node := by
  constructor
  · rintro ⟨value, h⟩
    unfold decodeText at h
    split at h
    · exact ⟨_, _, rfl⟩
    · cases h
  · rintro ⟨value, span, rfl⟩
    exact ⟨value, rfl⟩

theorem decodeSeconds_succeeds_iff (key : Key) (node : Node) :
    (∃ value, decodeSeconds key node = .ok value) ↔ IsSeconds node := by
  constructor
  · rintro ⟨value, h⟩
    unfold decodeSeconds at h
    split at h
    · exact ⟨_, _, rfl⟩
    · cases h
  · rintro ⟨value, span, rfl⟩
    exact ⟨value, rfl⟩

theorem decodeEntries_succeeds_iff {α : Type} (decode : Key → Node → Except Fault α)
    (Good : Node → Prop) (h : ∀ key node, (∃ value, decode key node = .ok value) ↔ Good node)
    (entries : Entries) :
    (∃ done, decodeEntries decode entries = .ok done) ↔ ∀ entry ∈ entries, Good entry.2 := by
  apply foldlM_succeeds_iff
  intro done entry
  rw [map_succeeds_iff, h]

theorem decodeTable_succeeds_iff (key : Key) (node : Node) :
    (∃ table, decodeTable key node = .ok table) ↔ IsTable node := by
  cases node with
  | table origin entries =>
    rw [isTable_table]
    exact decodeEntries_succeeds_iff decodeText IsText decodeText_succeeds_iff entries
  | scalar value span => cases value <;> simp [decodeTable, wrongShape, IsTable]
  | array items span => simp [decodeTable, wrongShape, IsTable]
  | tables elements => simp [decodeTable, wrongShape, IsTable]

theorem decodeTables_succeeds_iff (key : Key) (node : Node) :
    (∃ tables, decodeTables key node = .ok tables) ↔ IsTables node := by
  cases node with
  | table origin entries =>
    rw [isTables_table]
    exact decodeEntries_succeeds_iff decodeTable IsTable decodeTable_succeeds_iff entries
  | scalar value span => cases value <;> simp [decodeTables, wrongShape, IsTables]
  | array items span => simp [decodeTables, wrongShape, IsTables]
  | tables elements => simp [decodeTables, wrongShape, IsTables]

theorem decodeSetting_succeeds_iff (settings : Settings) (entry : Key × Node) :
    (∃ next, decodeSetting settings entry = .ok next) ↔ Fits entry := by
  unfold decodeSetting Fits
  split
  next h => simp [h, map_succeeds_iff, decodeText_succeeds_iff]
  next h => simp [h, map_succeeds_iff, decodeSeconds_succeeds_iff]
  next h => simp [h, map_succeeds_iff, decodeTables_succeeds_iff]
  next hurl hgrace htranslations =>
    exact ⟨fun _ => ⟨fun h => (hurl h).elim, fun h => (hgrace h).elim,
      fun h => (htranslations h).elim⟩, fun _ => ⟨settings, rfl⟩⟩

theorem decode_succeeds_iff (entries : Entries) :
    (∃ settings, decode entries = .ok settings) ↔ ∀ entry ∈ entries, Fits entry :=
  foldlM_succeeds_iff _ _ decodeSetting_succeeds_iff entries {}

theorem decode_fails_iff (entries : Entries) :
    (∃ fault, decode entries = .error fault) ↔ ∃ entry ∈ entries, ¬Fits entry := by
  have h := not_congr (decode_succeeds_iff entries)
  cases hd : decode entries with
  | error fault => simpa [hd] using h
  | ok settings => simpa [hd] using h

end UrlHandoff.Settings

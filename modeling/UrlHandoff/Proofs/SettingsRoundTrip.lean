import UrlHandoff.Proofs.SettingsContent
import UrlHandoff.Proofs.SettingsLoading
import UrlHandoff.Proofs.WrittenDocument

namespace UrlHandoff.Settings

open Document
open Document.Grammar (KeyPart LineText Statement Headed)

structure Style where
  quote : String → List Char
  quotes : ∀ text, Quotes (quote text) text
  arrangeTables : List (String × Dictionary String) → List (String × Dictionary String)
  arrangeTables_perm : ∀ tables, (arrangeTables tables).Perm tables
  arrangeTexts : String → List (String × String) → List (String × String)
  arrangeTexts_perm : ∀ locale texts, (arrangeTexts locale texts).Perm texts

def assignmentLine (key value : List Char) : List Char := key ++ ' ' :: '=' :: ' ' :: value

def headerLine (path key : List Char) : List Char := '[' :: (path ++ '.' :: (key ++ [']']))

namespace Style

def plain : Style where
  quote := quoted
  quotes := quotes_quoted
  arrangeTables := id
  arrangeTables_perm := .refl
  arrangeTexts _ := id
  arrangeTexts_perm _ := .refl

variable (style : Style)

def textLine (entry : String × String) : List Char :=
  assignmentLine (style.quote entry.1) (style.quote entry.2)

def tableLines (entry : String × Dictionary String) : List (List Char) :=
  headerLine "translations".toList (style.quote entry.1) ::
    (style.arrangeTexts entry.1 entry.2.entries).map style.textLine

def lines (settings : Settings) : List (List Char) :=
  (settings.defaultUrl.toList.map fun url =>
      assignmentLine "default_url".toList (style.quote url)) ++
    [assignmentLine "exit_grace_secs".toList (Nat.toDigits 10 settings.graceSeconds)] ++
      (style.arrangeTables settings.translations.entries).flatMap style.tableLines

def document (settings : Settings) : String := String.ofList (below (style.lines settings))

def fields (settings : Settings) : Fields :=
  (settings.defaultUrl.toList.map fun url => ("default_url", .text url)) ++
    [("exit_grace_secs", .integer settings.graceSeconds)]

def tableFields (entry : String × Dictionary String) : Fields :=
  (style.arrangeTexts entry.1 entry.2.entries).map fun text => (text.1, .text text.2)

def tables (settings : Settings) : List (String × Fields) :=
  (style.arrangeTables settings.translations.entries).map fun entry =>
    (entry.1, style.tableFields entry)

theorem lineText_textLine (entry : String × String) :
    LineText .reader (style.textLine entry) [.field (plainField (entry.1, .text entry.2))] :=
  lineText_field (.quoted (style.quotes entry.1)) (.text (.basic (style.quotes entry.2)))

abbrev Lines := List.Forall₂ fun w statement => LineText .reader w [statement]

theorem lines_tableLines (entry : String × Dictionary String) :
    Lines (style.tableLines entry)
      (plainHeaded "translations" (entry.1, style.tableFields entry)).statements := by
  have outer : KeyPart "translations".toList "translations" :=
    .bare (by decide) (List.all_iff_forall_prop.mp rfl)
  refine .cons (lineText_header outer (.quoted (style.quotes entry.1))) ?_
  rw [plainHeaded, tableFields, List.map_map, List.map_map, List.forall₂_map_left_iff,
    List.forall₂_map_right_iff, List.forall₂_same]
  intro text _
  exact style.lineText_textLine text

theorem lines_tables (entries : List (String × Dictionary String)) :
    Lines (entries.flatMap style.tableLines)
      (((entries.map fun entry => (entry.1, style.tableFields entry)).map
        (plainHeaded "translations")).flatMap Headed.statements) := by
  induction entries with
  | nil => exact .nil
  | cons entry entries ih => exact List.rel_append (style.lines_tableLines entry) ih

theorem lines_lines {settings : Settings} (fits : settings.graceSeconds < 2 ^ 63) :
    Lines (style.lines settings)
      (((fields settings).map plainField).map .field ++
        ((style.tables settings).map (plainHeaded "translations")).flatMap Headed.statements) := by
  have url : KeyPart "default_url".toList "default_url" :=
    .bare (by decide) (List.all_iff_forall_prop.mp rfl)
  have grace : KeyPart "exit_grace_secs".toList "exit_grace_secs" :=
    .bare (by decide) (List.all_iff_forall_prop.mp rfl)
  refine List.rel_append ?_ (style.lines_tables (style.arrangeTables settings.translations.entries))
  rw [fields, List.map_append, List.map_append]
  apply List.rel_append
  · cases settings.defaultUrl with
    | none => exact .nil
    | some text => exact .cons (lineText_field url (.text (.basic (style.quotes text)))) .nil
  · exact .cons (lineText_field grace (scalarText_toDigits fits)) .nil

theorem names_tableFields (entry : String × Dictionary String) :
    ((style.tableFields entry).map (·.1)).Nodup := by
  have perm := style.arrangeTexts_perm entry.1 entry.2.entries
  rw [tableFields, keys_map, (perm.map _).nodup_iff]
  exact entry.2.distinct_keys

theorem orderly (settings : Settings) :
    Orderly "translations" (fields settings) (style.tables settings) where
  own := by rcases settings with ⟨_ | url, grace, translations⟩ <;> simp [fields]
  outside := by rcases settings with ⟨_ | url, grace, translations⟩ <;> simp [fields]
  inside := by
    have perm := style.arrangeTables_perm settings.translations.entries
    rw [tables, keys_map, (perm.map _).nodup_iff]
    exact settings.translations.distinct_keys
  each := by
    intro table member
    obtain ⟨entry, _, rfl⟩ := List.mem_map.mp member
    exact style.names_tableFields entry

theorem tables_eq_nil_iff (settings : Settings) :
    style.tables settings = [] ↔ settings.translations = ∅ := by
  have perm := style.arrangeTables_perm settings.translations.entries
  rw [tables, List.map_eq_nil_iff, ← List.length_eq_zero_iff, perm.length_eq,
    List.length_eq_zero_iff]
  exact ⟨fun h => Dictionary.ext_entries h, fun h => h ▸ rfl⟩

end Style

theorem holdsEntries_of_perm {α : Type} {Holds : Datum → α → Prop} {dictionary : Dictionary α}
    {entries : List (String × α)} (perm : entries.Perm dictionary.entries)
    {written : String × α → Datum} (holds : ∀ entry, Holds (written entry) entry.2) :
    HoldsEntries Holds
      (fun name => valueAt name (entries.map fun entry => (entry.1, written entry)))
      dictionary := by
  intro name
  have distinct : (entries.map (·.1)).Nodup := (perm.map _).nodup_iff.mpr dictionary.distinct_keys
  have same : dictionary.get? name = valueAt name entries := (valueAt_perm perm distinct name).symm
  dsimp only
  rw [valueAt_map, same]
  cases valueAt name entries with
  | none => exact .absent
  | some value => exact .present (.value (holds (name, value)))

theorem holdsTables_of_style (style : Style) (translations : Tables) :
    HoldsTables
      (.table fun name => valueAt name
        (tableData ((style.arrangeTables translations.entries).map fun entry =>
          (entry.1, style.tableFields entry))))
      translations := by
  rw [holdsTables_table, tableData, List.map_map]
  apply holdsEntries_of_perm (style.arrangeTables_perm translations.entries)
  intro entry
  change HoldsTable (.table fun name => valueAt name (style.tableFields entry).data) entry.2
  rw [holdsTable_table, Style.tableFields, Fields.data, List.map_map]
  apply holdsEntries_of_perm (style.arrangeTexts_perm entry.1 entry.2.entries)
  intro text
  exact .text text.2

theorem writtenData_of_nonempty (outer : String) (fields : Fields)
    {tables : List (String × Fields)} (nonempty : tables ≠ []) :
    writtenData outer fields tables =
      fields.data ++ [(outer, .table fun name => valueAt name (tableData tables))] := by
  cases tables with
  | nil => exact absurd rfl nonempty
  | cons table tables => rfl

theorem valueAt_writtenData {outer name : String} (other : outer ≠ name) (fields : Fields)
    (tables : List (String × Fields)) :
    valueAt name (writtenData outer fields tables) = valueAt name fields.data := by
  cases tables with
  | nil => rfl
  | cons table tables => simp [writtenData, valueAt_append, valueAt, other]

theorem says_writtenData (style : Style) (settings : Settings) :
    Says
      (fun name => valueAt name
        (writtenData "translations" (Style.fields settings) (style.tables settings)))
      settings where
  defaultUrl := by
    rw [valueAt_writtenData (by decide)]
    rcases settings with ⟨_ | url, grace, translations⟩
    · exact .absent
    · exact .present (.value (.text url))
  graceSeconds := by
    rw [valueAt_writtenData (by decide)]
    rcases settings with ⟨_ | url, grace, translations⟩
    · exact .present (.seconds grace)
    · exact .present (.seconds grace)
  translations := by
    have own : valueAt "translations" (Style.fields settings).data = none := by
      rcases settings with ⟨_ | url, grace, translations⟩ <;> rfl
    by_cases empty : style.tables settings = []
    · rw [empty, writtenData, own, (style.tables_eq_nil_iff settings).mp empty]
      exact .absent
    · rw [writtenData_of_nonempty _ _ empty, valueAt_append, own, Option.none_or]
      exact .present (holdsTables_of_style style settings.translations)

theorem decode_document (style : Style) (settings : Settings)
    (fits : settings.graceSeconds ≤ Nat.pow 2 63 - 1) :
    ∃ entries, parse (style.document settings).toList = some entries ∧
      decode entries = .ok settings := by
  have less : settings.graceSeconds < 2 ^ 63 := by
    have power : Nat.pow 2 63 = 2 ^ 63 := rfl
    omega
  obtain ⟨entries, parsed, same⟩ :=
    parse_below (style.orderly settings) (style.lines_lines less)
  refine ⟨entries, ?_, ?_⟩
  · rw [Style.document, String.toList_ofList]
    exact parsed
  · rw [decode_eq_ok_iff (parse_proper parsed), same]
    exact says_writtenData style settings

theorem graceSeconds_le {entries : Entries} (proper : ProperEntries entries) {settings : Settings}
    (decoded : decode entries = .ok settings) : settings.graceSeconds ≤ Nat.pow 2 63 - 1 := by
  have becomes := ((decode_eq_ok_iff proper settings).mp decoded).graceSeconds
  cases present : content entries "exit_grace_secs" with
  | none =>
    rw [present, becomes_none] at becomes
    rw [becomes]
    decide
  | some datum =>
    rw [present, becomes_some] at becomes
    obtain ⟨seconds⟩ := becomes
    obtain ⟨entry, member, _, held⟩ := (content_eq_some_iff proper.distinct _ _).mp present
    obtain ⟨span, node⟩ := (datum_eq_scalar_iff entry.2 _).mp held
    have word := proper.each entry member
    rw [node] at word
    cases word with
    | scalar word =>
      have high := ((fitsWord_iff _).mp (word _ rfl)).2
      have power : Nat.pow 2 63 = 2 ^ 63 := rfl
      omega

/-- Settings that are written down are read back as they were, and none that are read have more
seconds than can be written. -/
theorem loadFrom_document :
    (∀ (style : Style) (settings : Settings) (files : FileTree) (path : Path),
        settings.graceSeconds ≤ Nat.pow 2 63 - 1 →
        files.read path = .ok (.ofText (style.document settings)) →
        loadFrom files path = .ok settings) ∧
      ∀ (files : FileTree) (path : Path) (settings : Settings),
        loadFrom files path = .ok settings → settings.graceSeconds ≤ Nat.pow 2 63 - 1 := by
  constructor
  · intro style settings files path fits read
    obtain ⟨entries, parsed, decoded⟩ := decode_document style settings fits
    exact loadFrom_of_yields read (.sound rfl parsed decoded)
  · intro files path settings loaded
    obtain ⟨content, _, yields⟩ := yields_of_loadFrom loaded
    cases yields with
    | sound _ parsed decoded => exact graceSeconds_le (parse_proper parsed) decoded

theorem loadFrom_document_of_odd_texts :
    let texts : Dictionary String := .ofList [("", "="), ("\t", "\x00")]
    let settings : Settings := ⟨some "a\"\\\n#", Nat.pow 2 63 - 1, .ofList [("", ∅), ("x.y]", texts)]⟩
    let files : FileTree := ⟨[([.ofText "c"], .file (.ofText (Style.plain.document settings)))], []⟩
    settings.graceSeconds ≤ Nat.pow 2 63 - 1 ∧
      files.read (.ofText "/c") = .ok (.ofText (Style.plain.document settings)) ∧
        loadFrom files (.ofText "/c") = .ok settings := by
  intro texts settings files
  have fits : settings.graceSeconds ≤ Nat.pow 2 63 - 1 := Nat.le_refl _
  have read : files.read (.ofText "/c") = .ok (.ofText (Style.plain.document settings)) := rfl
  exact ⟨fits, read, loadFrom_document.1 Style.plain settings files (.ofText "/c") fits read⟩

end UrlHandoff.Settings

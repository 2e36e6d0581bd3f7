import Mathlib
import UrlHandoff.Proofs.DocumentReading
import UrlHandoff.Proofs.SettingsContent
import UrlHandoff.Proofs.SettingsLoading

namespace UrlHandoff.Settings

open Document

inductive Misshapen (document : String → Option Datum) : Prop
  | defaultUrl {datum : Datum} (present : document "default_url" = some datum)
      (wrong : ∀ text, datum ≠ .scalar (.text text))
  | graceSeconds {datum : Datum} (present : document "exit_grace_secs" = some datum)
      (wrong : ∀ seconds : Nat, datum ≠ .scalar (.integer seconds))
  | translations {datum : Datum} (present : document "translations" = some datum)
      (wrong : ∀ tables, datum ≠ .table tables)
  | table {tables : String → Option Datum} {locale : String} {datum : Datum}
      (present : document "translations" = some (.table tables))
      (entry : tables locale = some datum) (wrong : ∀ texts, datum ≠ .table texts)
      (noMoment : ∀ value, datum ≠ .scalar (.moment value))
  | text {tables texts : String → Option Datum} {locale msgid : String} {datum : Datum}
      (present : document "translations" = some (.table tables))
      (held : tables locale = some (.table texts)) (entry : texts msgid = some datum)
      (wrong : ∀ text, datum ≠ .scalar (.text text))

inductive Translation (document : String → Option Datum) (locale msgid : String) : String → Prop
  | text {tables texts : String → Option Datum} {text : String}
      (present : document "translations" = some (.table tables))
      (held : tables locale = some (.table texts))
      (entry : texts msgid = some (.scalar (.text text))) : Translation document locale msgid text
  | moment {tables : String → Option Datum} {value : Moment}
      (present : document "translations" = some (.table tables))
      (held : tables locale = some (.scalar (.moment value))) (named : msgid = momentKey) :
      Translation document locale msgid value.text

def knownKeys : List String := ["default_url", "exit_grace_secs", "translations"]

theorem HoldsEntries.of_get? {α : Type} {Holds : Datum → α → Prop}
    {item? : String → Option Datum} {dictionary : Dictionary α}
    (h : HoldsEntries Holds item? dictionary) {name : String} {value : α}
    (found : dictionary.get? name = some value) :
    ∃ datum, item? name = some datum ∧ Holds datum value := by
  have becomes := h name
  rw [found] at becomes
  cases hentry : item? name with
  | none =>
    rw [hentry, becomes_none] at becomes
    cases becomes
  | some datum =>
    rw [hentry, becomes_some, holdsSome_iff] at becomes
    obtain ⟨held, holds, same⟩ := becomes
    cases same
    exact ⟨datum, rfl, holds⟩

theorem HoldsEntries.holds {α : Type} {Holds : Datum → α → Prop}
    {item? : String → Option Datum} {dictionary : Dictionary α}
    (h : HoldsEntries Holds item? dictionary) {name : String} {datum : Datum}
    (present : item? name = some datum) :
    ∃ value, Holds datum value ∧ dictionary.get? name = some value := by
  have becomes := h name
  rw [present, becomes_some, holdsSome_iff] at becomes
  exact becomes

theorem Says.tables {document : String → Option Datum} {settings : Settings}
    (h : Says document settings) {tables : String → Option Datum}
    (present : document "translations" = some (.table tables)) :
    HoldsEntries HoldsTable tables settings.translations := by
  have becomes := h.translations
  rw [present, becomes_some, holdsTables_table] at becomes
  exact becomes

theorem Says.not_misshapen {document : String → Option Datum} {settings : Settings}
    (h : Says document settings) : ¬Misshapen document := by
  rintro (⟨present, wrong⟩ | ⟨present, wrong⟩ | ⟨present, wrong⟩ |
    ⟨present, entry, wrong, noMoment⟩ | ⟨present, held, entry, wrong⟩)
  · have becomes := h.defaultUrl
    rw [present, becomes_some, holdsSome_iff] at becomes
    obtain ⟨text, ⟨⟩, _⟩ := becomes
    exact wrong text rfl
  · have becomes := h.graceSeconds
    rw [present, becomes_some] at becomes
    obtain ⟨⟩ := becomes
    exact wrong _ rfl
  · have becomes := h.translations
    rw [present, becomes_some] at becomes
    obtain ⟨holds⟩ := becomes
    exact wrong _ rfl
  · obtain ⟨texts, holds, _⟩ := (h.tables present).holds entry
    cases holds with
    | table holds => exact wrong _ rfl
    | moment value => exact noMoment value rfl
  · obtain ⟨texts, holds, _⟩ := (h.tables present).holds held
    rw [holdsTable_table] at holds
    obtain ⟨text, ⟨⟩, _⟩ := holds.holds entry
    exact wrong text rfl

theorem not_misshapen_of_absent {document : String → Option Datum}
    (absent : ∀ name ∈ knownKeys, document name = none) : ¬Misshapen document := by
  have none (name : String) (known : name ∈ knownKeys) {datum : Datum}
      (present : document name = some datum) : False := by
    rw [absent name known] at present
    cases present
  rintro (⟨present, -⟩ | ⟨present, -⟩ | ⟨present, -⟩ | ⟨present, -, -, -⟩ | ⟨present, -, -, -⟩)
  · exact none _ (by decide) present
  · exact none _ (by decide) present
  · exact none _ (by decide) present
  · exact none _ (by decide) present
  · exact none _ (by decide) present

theorem get?_ofList_singleton {α : Type} (key name : String) (value : α) :
    (Dictionary.ofList [(key, value)]).get? name = if key = name then some value else none :=
  Dictionary.get?_insert ∅ key value name

theorem Says.find?_eq_some_iff {document : String → Option Datum} {settings : Settings}
    (h : Says document settings) (locale msgid text : String) :
    settings.translations.find? locale msgid = some text ↔
      Translation document locale msgid text := by
  constructor
  · intro found
    obtain ⟨texts, hlocale, hmsgid⟩ := Option.bind_eq_some_iff.mp found
    have becomes := h.translations
    cases present : document "translations" with
    | none =>
      rw [present, becomes_none] at becomes
      rw [becomes] at hlocale
      cases hlocale
    | some datum =>
      rw [present, becomes_some] at becomes
      obtain ⟨holds⟩ := becomes
      obtain ⟨datum, held, holds⟩ := holds.of_get? hlocale
      cases holds with
      | table holds =>
        obtain ⟨_, entry, ⟨⟩⟩ := holds.of_get? hmsgid
        exact .text present held entry
      | moment value =>
        rw [get?_ofList_singleton] at hmsgid
        split at hmsgid
        next named =>
          cases hmsgid
          exact .moment present held named.symm
        · cases hmsgid
  · intro translation
    rw [Tables.find?]
    cases translation with
    | text present held entry =>
      obtain ⟨texts, holds, hlocale⟩ := (h.tables present).holds held
      rw [holdsTable_table] at holds
      obtain ⟨_, ⟨⟩, hmsgid⟩ := holds.holds entry
      rw [hlocale, Option.bind_some, hmsgid]
    | moment present held named =>
      obtain ⟨_, ⟨⟩, hlocale⟩ := (h.tables present).holds held
      rw [hlocale, Option.bind_some, get?_ofList_singleton, if_pos named.symm]

theorem content_of_mem {entries : Entries} (proper : ProperEntries entries) {entry : Key × Node}
    (member : entry ∈ entries) : content entries entry.1.name = some entry.2.datum :=
  (content_eq_some_iff proper.distinct _ _).mpr ⟨entry, member, rfl, rfl⟩

theorem isText_of_datum {node : Node} {text : String} (h : node.datum = .scalar (.text text)) :
    IsText node := by
  obtain ⟨span, rfl⟩ := (datum_eq_scalar_iff node _).mp h
  exact ⟨text, span, rfl⟩

theorem misshapen_of_not_isTables {document : String → Option Datum} {node : Node}
    (proper : Proper node) (present : document "translations" = some node.datum)
    (wrong : ¬IsTables node) : Misshapen document := by
  by_cases table : ∃ tables, node.datum = .table tables
  · obtain ⟨tables, same⟩ := table
    obtain ⟨origin, entries, rfl, rfl⟩ := (datum_eq_table_iff node tables).mp same
    obtain ⟨entry, member, wrong⟩ := not_forall₂.mp ((isTables_table _ _).not.mp wrong)
    have hentries := ProperEntries.of_table proper
    have held := content_of_mem hentries member
    by_cases inner : ∃ texts, entry.2.datum = .table texts
    · obtain ⟨texts, same⟩ := inner
      rw [same] at held
      obtain ⟨origin, entries, hnode, rfl⟩ := (datum_eq_table_iff entry.2 texts).mp same
      have hproper := hentries.each entry member
      rw [hnode] at wrong hproper
      obtain ⟨entry, member, wrong⟩ := not_forall₂.mp ((isTable_table _ _).not.mp wrong)
      have entry := content_of_mem (.of_table hproper) member
      exact .text present held entry fun text same => wrong (isText_of_datum same)
    · apply Misshapen.table present held (not_exists.mp inner)
      intro value same
      obtain ⟨span, hnode⟩ := (datum_eq_scalar_iff entry.2 _).mp same
      exact wrong (.inl ⟨value, span, hnode⟩)
  · exact .translations present (not_exists.mp table)

theorem misshapen_of_not_fits {entries : Entries} (proper : ProperEntries entries)
    {entry : Key × Node} (member : entry ∈ entries) (wrong : ¬Fits entry) :
    Misshapen (content entries) := by
  have present := content_of_mem proper member
  rw [Fits, not_and_or, not_and_or] at wrong
  rcases wrong with wrong | wrong | wrong
  · obtain ⟨named, wrong⟩ := Classical.not_imp.mp wrong
    rw [named] at present
    exact .defaultUrl present fun text same => wrong (isText_of_datum same)
  · obtain ⟨named, wrong⟩ := Classical.not_imp.mp wrong
    rw [named] at present
    apply Misshapen.graceSeconds present
    intro seconds same
    obtain ⟨span, hnode⟩ := (datum_eq_scalar_iff entry.2 _).mp same
    exact wrong ⟨seconds, span, hnode⟩
  · obtain ⟨named, wrong⟩ := Classical.not_imp.mp wrong
    rw [named] at present
    exact misshapen_of_not_isTables (proper.each entry member) present wrong

theorem decode_fails_iff_misshapen {entries : Entries} (proper : ProperEntries entries) :
    (∃ fault, decode entries = .error fault) ↔ Misshapen (content entries) := by
  constructor
  · intro failed
    obtain ⟨entry, member, wrong⟩ := (decode_fails_iff entries).mp failed
    exact misshapen_of_not_fits proper member wrong
  · intro misshapen
    cases h : decode entries with
    | error fault => exact ⟨fault, rfl⟩
    | ok settings => exact absurd misshapen ((decode_eq_ok_iff proper settings).mp h).not_misshapen

theorem Says.of_agree {first second : String → Option Datum} {settings : Settings}
    (agree : ∀ name ∈ knownKeys, first name = second name) (h : Says first settings) :
    Says second settings := by
  obtain ⟨url, grace, translations⟩ := h
  rw [agree "default_url" (by decide)] at url
  rw [agree "exit_grace_secs" (by decide)] at grace
  rw [agree "translations" (by decide)] at translations
  exact ⟨url, grace, translations⟩

theorem decode_outcome {entries : Entries} (proper : ProperEntries entries) :
    (Misshapen (content entries) ∧ ∃ fault, decode entries = .error fault) ∨
      (¬Misshapen (content entries) ∧
        ∃ settings, decode entries = .ok settings ∧ Says (content entries) settings) := by
  cases decoded : decode entries with
  | error fault =>
    exact .inl ⟨(decode_fails_iff_misshapen proper).mp ⟨fault, decoded⟩, fault, rfl⟩
  | ok settings =>
    have said := (decode_eq_ok_iff proper settings).mp decoded
    exact .inr ⟨said.not_misshapen, settings, rfl, said⟩

/-- A file is not UTF-8, or says no document, or says one with a value of a wrong shape under a
known key, or else it is read as the settings that its document gives. Nothing but what stands under
the known keys counts, and the order does not. -/
theorem loadFrom_judges {files : FileTree} {path : Path} {octets : Octets}
    (read : files.read path = .ok octets) :
    (((∀ text, octets ≠ .ofText text) ∧
        loadFrom files path = .error ⟨path.lossyText, .unreadable notUtf8⟩) ∨
      ∃ text, octets = .ofText text ∧
        (((∀ document, ¬Grammar.Says .reader text.toList document) ∧
            loadFrom files path = .error ⟨path.lossyText, .malformed⟩) ∨
          ∃ document, (∀ other, Grammar.Says .reader text.toList other ↔ other = document) ∧
            ((Misshapen document ∧
                ∃ fault, loadFrom files path =
                  .error ⟨path.lossyText, .misshapen fault text.toList⟩) ∨
              (¬Misshapen document ∧
                ∃ settings, loadFrom files path = .ok settings ∧ Says document settings ∧
                  ∀ locale msgid found, settings.translations.find? locale msgid = some found ↔
                    Translation document locale msgid found)))) ∧
      ∀ (others : FileTree) (other : Path) (text otherText : String)
        (document otherDocument : String → Option Datum),
        octets = .ofText text → others.read other = .ok (.ofText otherText) →
        Grammar.Says .reader text.toList document →
        Grammar.Says .reader otherText.toList otherDocument →
        (∀ name ∈ knownKeys, document name = otherDocument name) →
        (∃ settings,
            loadFrom files path = .ok settings ∧ loadFrom others other = .ok settings) ∨
          ∃ fault otherFault,
            loadFrom files path = .error ⟨path.lossyText, .misshapen fault text.toList⟩ ∧
              loadFrom others other =
                .error ⟨other.lossyText, .misshapen otherFault otherText.toList⟩ := by
  constructor
  · by_cases readable : ∃ text, octets = .ofText text
    · obtain ⟨text, rfl⟩ := readable
      refine .inr ⟨text, rfl, ?_⟩
      cases parsed : parse text.toList with
      | none =>
        exact .inl ⟨(parse_eq_none_iff _).mp parsed, loadFrom_of_yields read (.malformed rfl parsed)⟩
      | some entries =>
        refine .inr ⟨content entries, says_iff_of_parse parsed, ?_⟩
        rcases decode_outcome (parse_proper parsed) with
          ⟨wrong, fault, decoded⟩ | ⟨right, settings, decoded, said⟩
        · exact .inl ⟨wrong, fault, loadFrom_of_yields read (.misshapen rfl parsed decoded)⟩
        · exact .inr ⟨right, settings, loadFrom_of_yields read (.sound rfl parsed decoded), said,
            said.find?_eq_some_iff⟩
    · have broken := not_exists.mp readable
      exact .inl ⟨broken, loadFrom_of_yields read (.notText broken)⟩
  · rintro others other text otherText document otherDocument rfl otherRead own otherOwn agree
    obtain ⟨entries, parsed, rfl⟩ := parse_of_says own
    obtain ⟨otherEntries, otherParsed, rfl⟩ := parse_of_says otherOwn
    have proper := parse_proper parsed
    have otherProper := parse_proper otherParsed
    have agree' : ∀ name ∈ knownKeys, content otherEntries name = content entries name :=
      fun name known => (agree name known).symm
    rcases decode_outcome proper with
      ⟨wrong, fault, decoded⟩ | ⟨right, settings, decoded, said⟩
    · rcases decode_outcome otherProper with
        ⟨_, otherFault, otherDecoded⟩ | ⟨_, settings, otherDecoded, otherSaid⟩
      · exact .inr ⟨fault, otherFault, loadFrom_of_yields read (.misshapen rfl parsed decoded),
          loadFrom_of_yields otherRead (.misshapen rfl otherParsed otherDecoded)⟩
      · exact absurd wrong (otherSaid.of_agree agree').not_misshapen
    · have otherDecoded := (decode_eq_ok_iff otherProper settings).mpr (said.of_agree agree)
      exact .inl ⟨settings, loadFrom_of_yields read (.sound rfl parsed decoded),
        loadFrom_of_yields otherRead (.sound rfl otherParsed otherDecoded)⟩

theorem loadFrom_refuses_deep_nesting :
    let text := "x = " ++ String.ofList (brackets 200)
    let files : FileTree := ⟨[([.ofText "a"], .file (.ofText text))], []⟩
    (∃ document, Grammar.Says ⟨200, 1, false⟩ text.toList document ∧ ¬Misshapen document) ∧
      files.read (.ofText "/a") = .ok (.ofText text) ∧
        loadFrom files (.ofText "/a") = .error ⟨"/a", .malformed⟩ := by
  intro text files
  have spelled (s : List Char) :
      ("x = " ++ String.ofList s).toList = 'x' :: ' ' :: '=' :: ' ' :: s := by
    rw [String.toList_append]
    exact congrArg (['x', ' ', '=', ' '] ++ ·) String.toList_ofList
  have read : files.read (.ofText "/a") = .ok (.ofText text) := rfl
  have refused : parse text.toList = none := by
    rw [spelled]
    exact parse_brackets (by decide)
  have unknown : ∀ name ∈ knownKeys,
      Grammar.Items.data (.set .none "x" (.value (nested 199))) name = none := by
    rw [knownKeys, List.forall_mem_cons, List.forall_mem_cons, List.forall_mem_singleton]
    exact ⟨rfl, rfl, rfl⟩
  refine ⟨⟨_, ?_, not_misshapen_of_absent unknown⟩, read,
    loadFrom_of_yields read (.malformed rfl refused)⟩
  rw [spelled]
  exact says_brackets 199

theorem loadFrom_judges_reordered :
    let tidy := "exit_grace_secs = 3\n[translations.de]\n\"\" = \"x\"\n"
    let loose := "y = [1]\ntranslations.\"de\".'' = 'x'\nexit_grace_secs = 0x3"
    let files : FileTree :=
      ⟨[([.ofText "a"], .file (.ofText tidy)), ([.ofText "b"], .file (.ofText loose))], []⟩
    files.read (.ofText "/a") = .ok (.ofText tidy) ∧
      files.read (.ofText "/b") = .ok (.ofText loose) ∧
        loadFrom files (.ofText "/b") =
          .ok ⟨none, 3, .ofList [("de", .ofList [("", "x")])]⟩ := by
  intro tidy loose files
  have read : files.read (.ofText "/a") = .ok (.ofText tidy) := rfl
  have otherRead : files.read (.ofText "/b") = .ok (.ofText loose) := rfl
  let entries : Entries :=
    [(⟨"exit_grace_secs", ⟨47, 32⟩⟩, .scalar (.integer 3) ⟨29, 28⟩),
      (⟨"translations", ⟨26, 14⟩⟩, .table .passage
        [(⟨"de", ⟨13, 11⟩⟩, .table (.header ⟨27, 1⟩)
          [(⟨"", ⟨9, 7⟩⟩, .scalar (.text "x") ⟨4, 1⟩)])])]
  let otherEntries : Entries :=
    [(⟨"y", ⟨56, 55⟩⟩, .array [.scalar (.integer 1) ⟨51, 50⟩] ⟨52, 49⟩),
      (⟨"translations", ⟨48, 36⟩⟩, .table .dotted
        [(⟨"de", ⟨35, 31⟩⟩, .table .dotted
          [(⟨"", ⟨30, 28⟩⟩, .scalar (.text "x") ⟨25, 22⟩)])]),
      (⟨"exit_grace_secs", ⟨21, 6⟩⟩, .scalar (.integer 3) ⟨3, 0⟩)]
  have parsed : parse tidy.toList = some entries := by cbv
  have otherParsed : parse loose.toList = some otherEntries := by cbv
  have own : loadFrom files (.ofText "/a") =
      .ok ⟨none, 3, .ofList [("de", .ofList [("", "x")])]⟩ :=
    loadFrom_of_yields read (.sound rfl parsed rfl)
  have agree : ∀ name ∈ knownKeys, content entries name = content otherEntries name := by
    rw [knownKeys, List.forall_mem_cons, List.forall_mem_cons, List.forall_mem_singleton]
    exact ⟨rfl, rfl, rfl⟩
  obtain ⟨_, alike⟩ := loadFrom_judges read
  obtain ⟨settings, loaded, otherLoaded⟩ | ⟨fault, _, failed, _⟩ :=
    alike files (.ofText "/b") tidy loose (content entries) (content otherEntries) rfl otherRead
      (says_of_parse parsed) (says_of_parse otherParsed) agree
  · rw [own] at loaded
    cases loaded
    exact ⟨read, otherRead, otherLoaded⟩
  · rw [own] at failed
    cases failed

end UrlHandoff.Settings

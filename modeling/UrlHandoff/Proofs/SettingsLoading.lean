import UrlHandoff.Proofs.SettingsShape
import UrlHandoff.Settings.Loading

namespace UrlHandoff.Settings

inductive Yields (content : Octets) : Except Flaw Settings → Prop
  | notText (broken : ∀ text, content ≠ Octets.ofText text) :
      Yields content (.error (.unreadable notUtf8))
  | malformed {text : String} (readable : content = Octets.ofText text)
      (parsed : Document.parse text.toList = none) : Yields content (.error .malformed)
  | misshapen {text : String} {entries : Document.Entries} {fault : Fault}
      (readable : content = Octets.ofText text)
      (parsed : Document.parse text.toList = some entries)
      (decoded : decode entries = .error fault) :
      Yields content (.error (.misshapen fault text.toList))
  | sound {text : String} {entries : Document.Entries} {settings : Settings}
      (readable : content = Octets.ofText text)
      (parsed : Document.parse text.toList = some entries)
      (decoded : decode entries = .ok settings) : Yields content (.ok settings)

theorem ofOctets_ofText (text : String) :
    ofOctets (Octets.ofText text) = ofText text.toList := by
  simp only [ofOctets, Octets.text?_ofText]

theorem yields_iff (content : Octets) (result : Except Flaw Settings) :
    Yields content result ↔ ofOctets content = result := by
  constructor
  · intro h
    cases h with
    | notText broken => simp only [ofOctets, Octets.text?_eq_none_iff.mpr broken]
    | malformed readable parsed =>
      subst readable
      simp only [ofOctets_ofText, ofText, parsed]
    | misshapen readable parsed decoded =>
      subst readable
      simp only [ofOctets_ofText, ofText, parsed, decoded]
    | sound readable parsed decoded =>
      subst readable
      simp only [ofOctets_ofText, ofText, parsed, decoded]
  · rintro rfl
    cases h : content.text? with
    | none =>
      have broken := Octets.text?_eq_none_iff.mp h
      simp only [ofOctets, h]
      exact .notText broken
    | some text =>
      obtain rfl := Octets.text?_eq_some_iff.mp h
      rw [ofOctets_ofText, ofText]
      cases parsed : Document.parse text.toList with
      | none => exact .malformed rfl parsed
      | some entries =>
        cases decoded : decode entries with
        | error fault => simpa only [decoded] using .misshapen rfl parsed decoded
        | ok settings => simpa only [decoded] using .sound rfl parsed decoded

inductive Loads (env : Environment) (files : FileTree) : Except LoadError Settings → Prop
  | absent (missing : BaseDirectory.settingsPath? env files = none) : Loads env files (.ok {})
  | unreadable {path : Path} {number : Nat}
      (used : BaseDirectory.settingsPath? env files = some path)
      (read : files.read path = .error number) :
      Loads env files (.error ⟨path.lossyText, .unreadable (.numbered number)⟩)
  | flawed {path : Path} {content : Octets} {flaw : Flaw}
      (used : BaseDirectory.settingsPath? env files = some path)
      (read : files.read path = .ok content) (yields : Yields content (.error flaw)) :
      Loads env files (.error ⟨path.lossyText, flaw⟩)
  | sound {path : Path} {content : Octets} {settings : Settings}
      (used : BaseDirectory.settingsPath? env files = some path)
      (read : files.read path = .ok content) (yields : Yields content (.ok settings)) :
      Loads env files (.ok settings)

theorem load_of_used {env : Environment} {files : FileTree} {path : Path}
    (used : BaseDirectory.settingsPath? env files = some path) :
    load env files = loadFrom files path := by
  simp only [load, used]

theorem loadFrom_of_unread {files : FileTree} {path : Path} {number : Nat}
    (read : files.read path = .error number) :
    loadFrom files path = .error ⟨path.lossyText, .unreadable (.numbered number)⟩ := by
  rw [loadFrom, read]
  rfl

theorem loadFrom_of_read {files : FileTree} {path : Path} {content : Octets}
    (read : files.read path = .ok content) :
    loadFrom files path = (ofOctets content).mapError fun flaw => ⟨path.lossyText, flaw⟩ := by
  have h : ofFile ((files.read path).mapError fun number : Nat => .numbered number) =
      ofOctets content := by
    rw [read]
    rfl
  rw [loadFrom, h]
  cases ofOctets content <;> rfl

theorem loadFrom_of_yields {files : FileTree} {path : Path} {content : Octets}
    {result : Except Flaw Settings} (read : files.read path = .ok content)
    (yields : Yields content result) :
    loadFrom files path = result.mapError fun flaw => ⟨path.lossyText, flaw⟩ := by
  rw [loadFrom_of_read read, (yields_iff content result).mp yields]

theorem yields_of_loadFrom {files : FileTree} {path : Path} {settings : Settings}
    (loaded : loadFrom files path = .ok settings) :
    ∃ content, files.read path = .ok content ∧ Yields content (.ok settings) := by
  cases read : files.read path with
  | error number =>
    rw [loadFrom_of_unread read] at loaded
    cases loaded
  | ok content =>
    rw [loadFrom_of_read read] at loaded
    cases result : ofOctets content with
    | error flaw =>
      rw [result] at loaded
      cases loaded
    | ok found =>
      rw [result] at loaded
      cases loaded
      exact ⟨content, rfl, (yields_iff content _).mpr result⟩

theorem loads_iff (env : Environment) (files : FileTree) (result : Except LoadError Settings) :
    Loads env files result ↔ load env files = result := by
  constructor
  · intro h
    cases h with
    | absent missing => exact load_of_no_file missing
    | unreadable used read => rw [load_of_used used, loadFrom_of_unread read]
    | flawed used read yields =>
      rw [load_of_used used, loadFrom_of_yields read yields]
      rfl
    | sound used read yields =>
      rw [load_of_used used, loadFrom_of_yields read yields]
      rfl
  · rintro rfl
    cases used : BaseDirectory.settingsPath? env files with
    | none =>
      rw [load_of_no_file used]
      exact .absent used
    | some path =>
      rw [load_of_used used]
      cases read : files.read path with
      | error number =>
        rw [loadFrom_of_unread read]
        exact .unreadable used read
      | ok content =>
        have yields := (yields_iff content _).mpr rfl
        rw [loadFrom_of_read read]
        cases h : ofOctets content with
        | error flaw => exact .flawed used read (h ▸ yields)
        | ok settings => exact .sound used read (h ▸ yields)

/-- The ways in which a file holds no settings. One value of a wrong shape is enough. -/
inductive Faulty (files : FileTree) (path : Path) : Prop
  | unreadable {number : Nat} (read : files.read path = .error number)
  | notText {content : Octets} (read : files.read path = .ok content)
      (broken : ∀ text, content ≠ Octets.ofText text)
  | malformed {text : String} (read : files.read path = .ok (Octets.ofText text))
      (parsed : Document.parse text.toList = none)
  | misshapen {text : String} {entries : Document.Entries} {entry : Document.Key × Document.Node}
      (read : files.read path = .ok (Octets.ofText text))
      (parsed : Document.parse text.toList = some entries)
      (member : entry ∈ entries) (wrong : ¬Fits entry)

theorem Yields.faulty {files : FileTree} {path : Path} {content : Octets} {flaw : Flaw}
    (read : files.read path = .ok content) (h : Yields content (.error flaw)) :
    Faulty files path := by
  cases h with
  | notText broken => exact .notText read broken
  | malformed readable parsed => exact .malformed (readable ▸ read) parsed
  | misshapen readable parsed decoded =>
    obtain ⟨entry, member, wrong⟩ := (decode_fails_iff _).mp ⟨_, decoded⟩
    exact .misshapen (readable ▸ read) parsed member wrong

theorem Faulty.loads {env : Environment} {files : FileTree} {path : Path}
    (used : BaseDirectory.settingsPath? env files = some path) (h : Faulty files path) :
    ∃ error, Loads env files (.error error) := by
  cases h with
  | unreadable read => exact ⟨_, .unreadable used read⟩
  | notText read broken => exact ⟨_, .flawed used read (.notText broken)⟩
  | malformed read parsed => exact ⟨_, .flawed used read (.malformed rfl parsed)⟩
  | misshapen read parsed member wrong =>
    obtain ⟨fault, decoded⟩ := (decode_fails_iff _).mpr ⟨_, member, wrong⟩
    exact ⟨_, .flawed used read (.misshapen rfl parsed decoded)⟩

theorem load_fails_iff (env : Environment) (files : FileTree) :
    (∃ error, load env files = .error error) ↔
      ∃ path, BaseDirectory.settingsPath? env files = some path ∧ Faulty files path := by
  constructor
  · rintro ⟨error, h⟩
    cases (loads_iff _ _ _).mpr h with
    | unreadable used read => exact ⟨_, used, .unreadable read⟩
    | flawed used read yields => exact ⟨_, used, yields.faulty read⟩
  · rintro ⟨path, used, faulty⟩
    obtain ⟨error, h⟩ := faulty.loads used
    exact ⟨error, (loads_iff _ _ _).mp h⟩

end UrlHandoff.Settings

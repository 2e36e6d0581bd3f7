import Mathlib.Data.List.TakeWhile
import UrlHandoff.Proofs.SeparatedParts
import UrlHandoff.Proofs.SettingsLoading

namespace UrlHandoff

namespace FileTree

def Exists (files : FileTree) (path : Path) : Prop :=
  ∃ place entry, files.find path = .ok (place, entry)

theorem contains_iff (files : FileTree) (path : Path) :
    files.contains path = true ↔ files.Exists path := by
  rw [contains, Exists]
  cases h : files.find path with
  | error number =>
    constructor
    · rintro ⟨⟩
    · rintro ⟨place, entry, found⟩
      cases found
  | ok found => exact ⟨fun _ => ⟨found.1, found.2, rfl⟩, fun _ => rfl⟩

end FileTree

namespace BaseDirectory

inductive Based (env : Environment) (var below : String) : Path → Prop
  | set {rest : Path} (h : env.get? var = some (Path.slash :: rest)) :
      Based env var below (Path.slash :: rest)
  | unset (h : ∀ rest, env.get? var ≠ some (Path.slash :: rest)) :
      Based env var below ((home env).join below)

/-- The absolute paths of the list in order; where it has none, one directory stands in. -/
inductive Listed (env : Environment) : List Path → Prop
  | set {list : Octets} {parts paths : List Path} (h : env.get? "XDG_CONFIG_DIRS" = some list)
      (parted : PiecesOf colon parts list) (kept : parts.filter Path.isAbsolute = paths)
      (nonempty : paths ≠ []) : Listed env paths
  | unset (h : ∀ list parts, env.get? "XDG_CONFIG_DIRS" = some list → PiecesOf colon parts list →
      ∀ part ∈ parts, Path.isAbsolute part = false) : Listed env [Path.ofText "/etc/xdg"]

inductive Candidates (env : Environment) : List Path → Prop
  | paths {own : Path} {shared : List Path} (based : Based env "XDG_CONFIG_HOME" ".config" own)
      (listed : Listed env shared) :
      Candidates env
        ((own :: shared).map fun base => (base.join "weblaunch").join "config.toml")

theorem based_iff (env : Environment) (var below : String) (path : Path) :
    Based env var below path ↔ (absolute? env var).getD ((home env).join below) = path := by
  constructor
  · intro h
    cases h with
    | set h =>
      rw [absolute?, h]
      rfl
    | unset h =>
      have relative : absolute? env var = none := by
        rw [absolute?, Option.filter_eq_none_iff]
        intro value set absolute
        cases value with
        | nil => cases absolute
        | cons first rest =>
          obtain rfl : first = Path.slash := by simpa [Path.isAbsolute] using absolute
          exact h rest set
      rw [relative]
      rfl
  · rintro rfl
    cases found : absolute? env var with
    | none =>
      refine .unset fun rest set => ?_
      rw [absolute?, set] at found
      cases found
    | some value =>
      obtain ⟨set, absolute⟩ := Option.filter_eq_some_iff.mp found
      cases value with
      | nil => cases absolute
      | cons first rest =>
        obtain rfl : first = Path.slash := by simpa [Path.isAbsolute] using absolute
        exact .set set

theorem configDirectories_of_absolute {env : Environment} {paths : List Path}
    (h : (((env.get? "XDG_CONFIG_DIRS").getD []).splitOn colon).filter Path.isAbsolute = paths)
    (nonempty : paths ≠ []) : configDirectories env = paths := by
  rw [configDirectories, h]
  cases paths with
  | nil => exact absurd rfl nonempty
  | cons => rfl

theorem listed_iff (env : Environment) (paths : List Path) :
    Listed env paths ↔ configDirectories env = paths := by
  constructor
  · intro h
    cases h with
    | set set parted kept nonempty =>
      obtain rfl := (piecesOf_iff _ _ _).mp parted
      exact configDirectories_of_absolute (by rwa [set]) nonempty
    | unset h =>
      have none : (((env.get? "XDG_CONFIG_DIRS").getD []).splitOn colon).filter Path.isAbsolute =
          [] := by
        rw [List.filter_eq_nil_iff]
        cases set : env.get? "XDG_CONFIG_DIRS" with
        | none =>
          intro part member
          obtain rfl : part = [] := by simpa using member
          simp [Path.isAbsolute]
        | some list =>
          intro part member
          simp [h list _ set ((piecesOf_iff _ _ _).mpr rfl) part member]
      rw [configDirectories, none]
  · rintro rfl
    by_cases none : (((env.get? "XDG_CONFIG_DIRS").getD []).splitOn colon).filter
        Path.isAbsolute = []
    · rw [configDirectories, none]
      refine .unset fun list parts set parted part member => ?_
      obtain rfl := (piecesOf_iff _ _ _).mp parted
      rw [set, List.filter_eq_nil_iff] at none
      simpa using none part member
    · rw [configDirectories_of_absolute rfl none]
      cases set : env.get? "XDG_CONFIG_DIRS" with
      | none =>
        rw [set] at none
        exact absurd rfl none
      | some list =>
        rw [set] at none
        exact .set set ((piecesOf_iff _ _ _).mpr rfl) rfl none

theorem candidates_iff (env : Environment) (paths : List Path) :
    Candidates env paths ↔ settingsCandidates env = paths := by
  constructor
  · rintro ⟨based, listed⟩
    rw [settingsCandidates, configHome, (based_iff _ _ _ _).mp based, (listed_iff _ _).mp listed]
    rfl
  · rintro rfl
    exact .paths ((based_iff _ _ _ _).mpr rfl) ((listed_iff _ _).mpr rfl)

section Order

variable {env : Environment} {files : FileTree} {before after : List Path} {path : Path}

theorem settingsPath?_of_first (order : settingsCandidates env = before ++ path :: after)
    (missing : ∀ earlier ∈ before, ¬files.Exists earlier) (present : files.Exists path) :
    settingsPath? env files = some path := by
  apply List.find?_eq_some_iff_append.mpr
  refine ⟨(files.contains_iff path).mpr present, before, after, order, ?_⟩
  intro earlier member
  have absent := missing earlier member
  rw [← files.contains_iff] at absent
  simpa using absent

theorem settingsPath?_of_none
    (missing : ∀ path ∈ settingsCandidates env, ¬files.Exists path) :
    settingsPath? env files = none := by
  apply List.find?_eq_none.mpr
  intro path member
  rw [files.contains_iff]
  exact missing path member

def passedOver (env : Environment) (files : FileTree) : List Path :=
  (settingsCandidates env).takeWhile fun path => !files.contains path

theorem missing_of_mem_passedOver (h : path ∈ passedOver env files) :
    path ∈ settingsCandidates env ∧ ¬files.Exists path := by
  refine ⟨(List.takeWhile_prefix _).mem h, ?_⟩
  have absent := List.mem_takeWhile_imp h
  rw [← files.contains_iff]
  simpa using absent

theorem candidates_of_used (used : settingsPath? env files = some path) :
    ∃ after, settingsCandidates env = passedOver env files ++ path :: after := by
  rw [settingsPath?, List.find?_eq_head?_dropWhile_not] at used
  obtain ⟨after, rest⟩ := List.head?_eq_some_iff.mp used
  refine ⟨after, ?_⟩
  rw [← rest, passedOver]
  exact List.takeWhile_append_dropWhile.symm

theorem passedOver_of_none (unused : settingsPath? env files = none) :
    passedOver env files = settingsCandidates env := by
  rw [passedOver, List.takeWhile_eq_self_iff]
  intro path member
  simpa using List.find?_eq_none.mp unused path member

end Order

end BaseDirectory

namespace Settings

inductive Gives (files : FileTree) (path : Path) : Except LoadError Settings → Prop
  | directory {place : List Octets} (h : files.find path = .ok (place, .directory)) :
      Gives files path (.error ⟨path.lossyText, .unreadable (.numbered 21)⟩)
  | refused {place : List Octets} {number : Nat}
      (h : files.find path = .ok (place, .refused number)) :
      Gives files path (.error ⟨path.lossyText, .unreadable (.numbered number)⟩)
  | flawed {content : Octets} {flaw : Flaw} (read : files.read path = .ok content)
      (yields : Yields content (.error flaw)) :
      Gives files path (.error ⟨path.lossyText, flaw⟩)
  | sound {content : Octets} {settings : Settings} (read : files.read path = .ok content)
      (yields : Yields content (.ok settings)) : Gives files path (.ok settings)

theorem gives_of_read {files : FileTree} {path : Path} {content : Octets}
    (read : files.read path = .ok content) : Gives files path (loadFrom files path) := by
  have yields := (yields_iff content _).mpr rfl
  rw [loadFrom_of_read read]
  cases h : ofOctets content with
  | error flaw => exact .flawed read (h ▸ yields)
  | ok settings => exact .sound read (h ▸ yields)

theorem gives_loadFrom {files : FileTree} {path : Path} (present : files.Exists path) :
    Gives files path (loadFrom files path) := by
  obtain ⟨place, entry, found⟩ := present
  cases entry with
  | directory =>
    have read : files.read path = .error FileTree.isDirectory := by rw [FileTree.read, found]
    rw [loadFrom_of_unread read]
    exact .directory found
  | refused number =>
    have read : files.read path = .error number := by rw [FileTree.read, found]
    rw [loadFrom_of_unread read]
    exact .refused found
  | file content =>
    have read : files.read path = .ok content := by rw [FileTree.read, found]
    exact gives_of_read read
  | program status =>
    have read : files.read path = .ok [] := by rw [FileTree.read, found]
    exact gives_of_read read

theorem Faulty.loadFrom {files : FileTree} {path : Path} (h : Faulty files path) :
    ∃ flaw, loadFrom files path = .error ⟨path.lossyText, flaw⟩ := by
  cases h with
  | unreadable read => exact ⟨_, loadFrom_of_unread read⟩
  | notText read broken => exact ⟨_, loadFrom_of_yields read (.notText broken)⟩
  | malformed read parsed => exact ⟨_, loadFrom_of_yields read (.malformed rfl parsed)⟩
  | misshapen read parsed member wrong =>
    obtain ⟨fault, decoded⟩ := (decode_fails_iff _).mpr ⟨_, member, wrong⟩
    exact ⟨_, loadFrom_of_yields read (.misshapen rfl parsed decoded)⟩

theorem loadFrom_of_same_content {files other : FileTree} {path : Path}
    (same : other.read path = files.read path) : loadFrom other path = loadFrom files path := by
  rw [Settings.loadFrom, Settings.loadFrom, same]

section Alike

variable {env : Environment} {files other : FileTree}

/-- In the other tree the search for the settings meets with the same: no candidate that comes
before the file that is used, and the same content in that file. -/
structure SeenAlike (env : Environment) (files other : FileTree) : Prop where
  missing : ∀ path ∈ BaseDirectory.passedOver env files, ¬other.Exists path
  used : ∀ path, BaseDirectory.settingsPath? env files = some path →
    other.Exists path ∧ other.read path = files.read path

theorem SeenAlike.settingsPath? (h : SeenAlike env files other) :
    BaseDirectory.settingsPath? env other = BaseDirectory.settingsPath? env files := by
  cases used : BaseDirectory.settingsPath? env files with
  | none =>
    apply BaseDirectory.settingsPath?_of_none
    rw [← BaseDirectory.passedOver_of_none used]
    exact h.missing
  | some path =>
    obtain ⟨after, order⟩ := BaseDirectory.candidates_of_used used
    exact BaseDirectory.settingsPath?_of_first order h.missing (h.used path used).1

theorem SeenAlike.load (h : SeenAlike env files other) : load env other = load env files := by
  rw [Settings.load, Settings.load, h.settingsPath?]
  cases used : BaseDirectory.settingsPath? env files with
  | none => rfl
  | some path => exact loadFrom_of_same_content (h.used path used).2

end Alike

/-- Trees that agree down to the first candidate that exists are loaded from alike: a faulty file
makes way neither for a later candidate nor for the standard settings. -/
theorem load_first_existing (env : Environment) (files : FileTree) :
    ∃ candidates, (∀ paths, BaseDirectory.Candidates env paths ↔ paths = candidates) ∧
      ((∀ path ∈ candidates, ¬files.Exists path) →
        BaseDirectory.settingsPath? env files = none ∧ load env files = .ok {}) ∧
      ∀ before path after, candidates = before ++ path :: after →
        (∀ earlier ∈ before, ¬files.Exists earlier) → files.Exists path →
          BaseDirectory.settingsPath? env files = some path ∧
          Gives files path (load env files) ∧
          (Faulty files path → ∃ flaw, load env files = .error ⟨path.lossyText, flaw⟩) ∧
          ∀ other : FileTree, (∀ earlier ∈ before, ¬other.Exists earlier) → other.Exists path →
            other.read path = files.read path →
              BaseDirectory.settingsPath? env other = some path ∧
                load env other = load env files := by
  refine ⟨BaseDirectory.settingsCandidates env, ?_, ?_, ?_⟩
  · intro paths
    rw [BaseDirectory.candidates_iff]
    exact eq_comm
  · intro missing
    have unused := BaseDirectory.settingsPath?_of_none missing
    exact ⟨unused, load_of_no_file unused⟩
  · intro before path after order missing present
    have used := BaseDirectory.settingsPath?_of_first order missing present
    rw [load_of_used used]
    refine ⟨used, gives_loadFrom present, Faulty.loadFrom, ?_⟩
    intro other missing' present' same
    have used' := BaseDirectory.settingsPath?_of_first order missing' present'
    exact ⟨used', by rw [load_of_used used', loadFrom_of_same_content same]⟩

theorem load_first_existing_behind_directory :
    let env : Environment := ⟨[("HOME", .ofText "/h"), ("XDG_CONFIG_DIRS", .ofText "c::/a:/b/")]⟩
    let under (name : String) : List (List Octets × FileEntry) :=
      [([.ofText name], .directory), ([.ofText name, .ofText "weblaunch"], .directory)]
    let place (name : String) : List Octets :=
      [.ofText name, .ofText "weblaunch", .ofText "config.toml"]
    let files : FileTree := ⟨under "a" ++ (place "a", .directory) ::
      under "b" ++ [(place "b", .file (.ofText "default_url = 'x'"))], []⟩
    let other : FileTree := ⟨under "a" ++ [(place "a", .directory)], []⟩
    (∃ flaw, load env files = .error ⟨"/a/weblaunch/config.toml", flaw⟩) ∧
      load env other = load env files := by
  intro env under place files other
  let first : Path := .ofText "/h/.config/weblaunch/config.toml"
  let second : Path := .ofText "/a/weblaunch/config.toml"
  obtain ⟨candidates, unique, -, shadows⟩ := load_first_existing env files
  have order : candidates =
      [first] ++ second :: [Path.ofText "/b/weblaunch/config.toml"] := by
    refine ((unique _).mp ((BaseDirectory.candidates_iff env _).mpr ?_)).symm
    decide +kernel
  have missing (tree : FileTree) (h : tree.contains first = false) :
      ∀ earlier ∈ [first], ¬tree.Exists earlier := by
    intro earlier member
    obtain rfl := List.mem_singleton.mp member
    simp [← tree.contains_iff, h]
  obtain ⟨-, -, faulty, frame⟩ := shadows _ _ _ order (missing files (by decide +kernel))
    ((files.contains_iff second).mp (by decide +kernel))
  have read : files.read second = .error 21 := by decide +kernel
  have alike := frame other (missing other (by decide +kernel))
    ((other.contains_iff second).mp (by decide +kernel)) (by decide +kernel)
  have shown : second.lossyText = "/a/weblaunch/config.toml" := by decide +kernel
  obtain ⟨flaw, failed⟩ := faulty (.unreadable read)
  exact ⟨⟨flaw, by rw [failed, shown]⟩, alike.2⟩

end Settings

end UrlHandoff

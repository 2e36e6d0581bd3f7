import UrlHandoff.Proofs.FileWriting

namespace UrlHandoff.FileTree

inductive Change (made written : List Octets → Prop) (place : List Octets) :
    Option FileEntry → Option FileEntry → Prop
  | kept (entry : Option FileEntry) : Change made written place entry entry
  | directory (h : made place) : Change made written place none (some .directory)
  | file {entry : Option FileEntry} {content : Octets} (more : Octets) (h : written place)
      (held : Holds entry content) :
      Change made written place entry (some (.file (content ++ more)))

def Grows (made written : List Octets → Prop) (tree grown : FileTree) : Prop :=
  ∀ place, Change made written place (tree.at? place) (grown.at? place)

def Connected (tree : FileTree) : Prop :=
  ∀ place, place ≠ [] → tree.at? place ≠ none → tree.at? place.dropLast = some .directory

def OnTheWay (tree : FileTree) (names : List Octets) (place : List Octets) : Prop :=
  ∃ front, front <+: names ∧ tree.follow [] front = .ok place

def Turns (tree : FileTree) (path : Path) (place : List Octets) : Prop :=
  ∃ front back, path.parts = front ++ back ∧ (back = [] ∨ back.head? = some Path.parent) ∧
    tree.follow [] front = .ok place

section Change

variable {made written : List Octets → Prop} {place : List Octets}
  {first second third : Option FileEntry}

theorem Change.of_directory (h : Change made written place (some .directory) second) :
    second = some .directory := by
  cases h with
  | kept => rfl
  | file more h held => cases held

theorem Change.of_none {entry : FileEntry} (h : Change made written place none (some entry)) :
    entry = .directory ∨ written place := by
  cases h with
  | directory h => exact .inl rfl
  | file more h held => exact .inr h

theorem Change.to_directory (h : Change made written place first (some .directory)) :
    first = some .directory ∨ first = none := by
  cases h with
  | kept => exact .inl rfl
  | directory h => exact .inr rfl

theorem Change.eq_of_not_written (h : Change made written place first second)
    (there : first ≠ none) (unwritten : ¬written place) : second = first := by
  cases h with
  | kept => rfl
  | directory h => exact absurd rfl there
  | file more h held => exact absurd h unwritten

theorem Change.trans (h : Change made written place first second)
    (h' : Change made written place second third) : Change made written place first third := by
  cases h with
  | kept => exact h'
  | directory h =>
    cases h' with
    | kept => exact .directory h
    | file more h' held => cases held
  | @file first content more h held =>
    cases h' with
    | kept => exact .file more h held
    | file more' h' held' =>
      cases held'
      rw [List.append_assoc]
      exact .file _ h held

theorem Change.mono {made' written' : List Octets → Prop} (hmade : made place → made' place)
    (hwritten : written place → written' place) (h : Change made written place first second) :
    Change made' written' place first second := by
  cases h with
  | kept => exact .kept _
  | directory h => exact .directory (hmade h)
  | file more h held => exact .file more (hwritten h) held

end Change

section Grows

variable {made written : List Octets → Prop} {tree grown : FileTree}

theorem Grows.refl (tree : FileTree) : Grows made written tree tree := fun _ => .kept _

theorem Grows.trans {last : FileTree} (h : Grows made written tree grown)
    (h' : Grows made written grown last) : Grows made written tree last :=
  fun place => (h place).trans (h' place)

theorem Grows.mono {made' written' : List Octets → Prop} (hmade : ∀ place, made place → made' place)
    (hwritten : ∀ place, written place → written' place) (h : Grows made written tree grown) :
    Grows made' written' tree grown :=
  fun place => (h place).mono (hmade place) (hwritten place)

theorem Grows.keepsDirectories (h : Grows made written tree grown) :
    KeepsDirectories tree grown := by
  intro place directory
  have change := h place
  rw [directory] at change
  exact change.of_directory

theorem grows_put {place : List Octets} {entry : FileEntry}
    (there : tree.at? place ≠ some .directory)
    (change : Change made written place (tree.at? place) (some entry)) :
    Grows made written tree (tree.put place entry) := by
  intro other
  by_cases h : other = place
  · subst h
    rw [at?_put tree other entry (ne_root there)]
    exact change
  · rw [at?_put_of_ne tree entry h]
    exact .kept _

theorem connected_of_entries
    (h : ∀ entry ∈ tree.entries, tree.at? entry.1.dropLast = some .directory) :
    tree.Connected := by
  intro place nonempty there
  rw [at?, if_neg nonempty, ← Option.isSome_iff_ne_none, List.lookup_isSome_iff] at there
  obtain ⟨entry, member, same⟩ := there
  obtain rfl := eq_of_beq same
  exact h entry member

theorem Connected.put {place : List Octets} {entry : FileEntry} (connected : tree.Connected)
    (there : tree.at? place ≠ some .directory)
    (above : tree.at? place.dropLast = some .directory) : (tree.put place entry).Connected := by
  have keeps := keepsDirectories_put there entry
  intro other nonempty entered
  by_cases h : other = place
  · subst h
    exact keeps _ above
  · rw [at?_put_of_ne tree entry h] at entered
    exact keeps _ (connected other nonempty entered)

theorem OnTheWay.mono {names longer place : List Octets} (keeps : KeepsDirectories tree grown)
    (longer_of : names <+: longer) (h : OnTheWay tree names place) :
    OnTheWay grown longer place := by
  obtain ⟨front, start, leads⟩ := h
  exact ⟨front, start.trans longer_of, keeps.follow leads⟩

theorem Turns.follow {path : Path} {place : List Octets} (h : Turns tree path place)
    (straight : Path.parent ∉ path.parts) : tree.follow [] path.parts = .ok place := by
  obtain ⟨front, back, split, rfl | back_up, follows⟩ := h
  · rwa [split, List.append_nil]
  · rw [split] at straight
    exact absurd (List.mem_append_right front (List.mem_of_mem_head? back_up)) straight

theorem Grows.written_of_new (grows : Grows made written tree grown) (connected : tree.Connected)
    {parts start found : List Octets} {entry : FileEntry} (new : tree.at? start = none)
    (turns : ∀ front back place, parts = front ++ back →
      (back = [] ∨ back.head? = some Path.parent) → grown.follow start front = .ok place →
        tree.at? place = none → grown.at? place ≠ some .directory)
    (leads : grown.follow start parts = .ok found) (there : grown.at? found = some entry) :
    written found := by
  induction parts generalizing start with
  | nil =>
    obtain rfl := Except.ok.inj leads
    have change := grows start
    rw [new, there] at change
    obtain rfl | h := change.of_none
    · exact absurd there (turns [] [] start rfl (.inl rfl) rfl new)
    · exact h
  | cons part rest ih =>
    obtain ⟨directory, next, step, leads⟩ := follow_cons_eq_ok_iff.mp leads
    have later (h : tree.at? next = none) : written found := by
      refine ih h ?_ leads
      intro front back place split ends follows
      have whole := follow_cons_eq_ok_iff.mpr ⟨directory, next, step, follows⟩
      exact turns (part :: front) back place (by rw [split, List.cons_append]) ends whole
    cases step with
    | stays => exact later new
    | up up =>
      exact absurd directory (turns [] _ start rfl (.inr (congrArg some up)) rfl new)
    | into =>
      -- Nothing was below a place that was not there, so the path goes on through what is new.
      apply later
      by_cases old : tree.at? (start ++ [part]) = none
      · exact old
      have above := connected _ (List.append_ne_nil_of_right_ne_nil _ (List.cons_ne_nil _ _)) old
      rw [List.dropLast_concat, new] at above
      cases above

theorem Grows.follow_old (grows : Grows made written tree grown) (connected : tree.Connected)
    {parts start found : List Octets} {entry : FileEntry}
    (turns : ∀ front back place, parts = front ++ back →
      (back = [] ∨ back.head? = some Path.parent) → grown.follow start front = .ok place →
        tree.at? place = none → grown.at? place ≠ some .directory)
    (leads : grown.follow start parts = .ok found) (there : grown.at? found = some entry)
    (unwritten : ¬written found) : tree.follow start parts = .ok found := by
  induction parts generalizing start with
  | nil => exact leads
  | cons part rest ih =>
    obtain ⟨directory, next, step, follows⟩ := follow_cons_eq_ok_iff.mp leads
    have change := grows start
    rw [directory] at change
    obtain old | new := change.to_directory
    · refine follow_cons_eq_ok_iff.mpr ⟨old, next, step, ih ?_ follows⟩
      intro front back place split ends later
      have whole := follow_cons_eq_ok_iff.mpr ⟨directory, next, step, later⟩
      exact turns (part :: front) back place (by rw [split, List.cons_append]) ends whole
    · exact absurd (grows.written_of_new connected new turns leads there) unwritten

theorem Grows.find_old (grows : Grows made written tree grown) (connected : tree.Connected)
    {path : Path} {found : List Octets} {entry : FileEntry}
    (turns : ∀ place, Turns grown path place → tree.at? place = none →
      grown.at? place ≠ some .directory)
    (h : grown.find path = .ok (found, entry)) (unwritten : ¬written found) :
    tree.find path = .ok (found, entry) := by
  obtain ⟨located, there⟩ := find_eq_ok_iff.mp h
  obtain ⟨sound, leads⟩ := locate_eq_ok_iff.mp located
  have old : tree.follow [] path.parts = .ok found := by
    refine grows.follow_old connected ?_ leads there unwritten
    intro front back place split ends follows
    exact turns place ⟨front, back, split, ends, follows⟩
  refine find_eq_ok_iff.mpr ⟨locate_eq_ok_iff.mpr ⟨sound, old⟩, ?_⟩
  have change := grows found
  by_cases new : tree.at? found = none
  · rw [new, there] at change
    obtain rfl | h := change.of_none
    · exact absurd there (turns found ⟨path.parts, [], by simp, .inl rfl, leads⟩ new)
    · exact absurd h unwritten
  · rw [← change.eq_of_not_written new unwritten, there]

theorem Grows.find_kept (grows : Grows made written tree grown) {path : Path}
    {found : List Octets} {entry : FileEntry} (h : tree.find path = .ok (found, entry))
    (unwritten : grown.locate path = .ok found → ¬written found) :
    grown.find path = .ok (found, entry) := by
  obtain ⟨located, there⟩ := find_eq_ok_iff.mp h
  have located' := grows.keepsDirectories.locate located
  refine find_eq_ok_iff.mpr ⟨located', ?_⟩
  rw [(grows found).eq_of_not_written (by simp [there]) (unwritten located'), there]

theorem Grows.read (grows : Grows made written tree grown) {path : Path} {content : Octets}
    (h : tree.read path = .ok content) :
    ∃ more, grown.read path = .ok (content ++ more) ∧
      (more = [] ∨ ∃ place, grown.locate path = .ok place ∧ written place) := by
  cases found : tree.find path with
  | error number => simp [FileTree.read, found] at h
  | ok result =>
    obtain ⟨place, entry⟩ := result
    obtain ⟨located, there⟩ := find_eq_ok_iff.mp found
    have located' := grows.keepsDirectories.locate located
    have change := grows place
    rw [there] at change
    cases after : grown.at? place with
    | none =>
      rw [after] at change
      cases change
    | some last =>
      have found' := find_eq_ok_iff.mpr ⟨located', after⟩
      rw [after] at change
      cases change with
      | kept => exact ⟨[], by simpa [FileTree.read, found, found'] using h, .inl rfl⟩
      | file more here held =>
        refine ⟨more, ?_, .inr ⟨place, located', here⟩⟩
        cases held <;> simp_all [FileTree.read]

theorem grows_append (made : List Octets → Prop) {path : Path} {more : Octets}
    (h : tree.append path more = .ok grown) :
    Grows made (fun place => grown.locate path = .ok place) tree grown := by
  obtain ⟨place, content, located, held, -, rfl⟩ := update_eq_ok_iff.mp h
  have there := held.not_directory
  exact grows_put there (.file more ((keepsDirectories_put there _).locate located) held)

theorem Connected.append {path : Path} {more : Octets} (connected : tree.Connected)
    (h : tree.append path more = .ok grown) : grown.Connected := by
  obtain ⟨place, content, -, held, above, rfl⟩ := update_eq_ok_iff.mp h
  have there := held.not_directory
  refine connected.put there ?_
  by_cases missing : tree.at? place = none
  · exact (above missing).1
  · exact connected place (ne_root there) missing

end Grows

section Making

variable {tree made : FileTree} {start place : List Octets}

theorem makeDirectory_eq_ok {parts : List Octets}
    (h : tree.makeDirectory start parts = .ok (made, place)) :
    tree.follow start parts = .ok place ∧ tree.at? place = none ∧
      tree.at? place.dropLast = some .directory ∧ made = tree.put place .directory := by
  rw [makeDirectory] at h
  cases leads : tree.follow start parts with
  | error number => simp [leads] at h
  | ok last =>
    simp only [leads] at h
    by_cases there : (tree.at? last).isSome
    · rw [if_pos there] at h
      cases h
    rw [if_neg there] at h
    cases above : tree.at? last.dropLast with
    | none => simp [above] at h
    | some entry =>
      simp only [above] at h
      cases entry with
      | directory =>
        dsimp only at h
        split at h
        · cases h
        · obtain ⟨rfl, rfl⟩ := Prod.mk.inj (Except.ok.inj h)
          exact ⟨rfl, by simpa using there, above, rfl⟩
      | file | program | refused => cases h

theorem directoryOr_eq_ok {parts : List Octets} {number : Nat}
    (h : tree.directoryOr start parts number = .ok place) :
    tree.follow start parts = .ok place ∧ tree.at? place = some .directory := by
  rw [directoryOr] at h
  cases leads : tree.follow start parts with
  | error number => simp [leads] at h
  | ok last =>
    simp only [leads] at h
    split at h
    · next directory =>
      obtain rfl := Except.ok.inj h
      exact ⟨rfl, directory⟩
    · cases h

/-- What comes of making the directories that some names lead to, one below the other. -/
structure Makes (names : List Octets) (tree made : FileTree) : Prop where
  grows : Grows (OnTheWay made names) (fun _ => False) tree made
  connected : tree.Connected → made.Connected

theorem Makes.refl (names : List Octets) (tree : FileTree) : Makes names tree tree :=
  ⟨.refl tree, id⟩

theorem Makes.of_makeDirectory {names : List Octets} {parts : List Octets}
    (h : tree.makeDirectory start parts = .ok (made, place))
    (leads : tree.follow [] names = .ok start) :
    Makes (names ++ parts) tree made ∧ made.follow [] (names ++ parts) = .ok place := by
  obtain ⟨follows, missing, above, rfl⟩ := makeDirectory_eq_ok h
  have there : tree.at? place ≠ some .directory := by simp [missing]
  have whole : tree.follow [] (names ++ parts) = .ok place :=
    follow_append_eq_ok_iff.mpr ⟨start, leads, follows⟩
  have kept := (keepsDirectories_put there .directory).follow whole
  refine ⟨⟨grows_put there ?_, fun connected => connected.put there above⟩, kept⟩
  rw [missing]
  exact .directory ⟨_, List.prefix_rfl, kept⟩

theorem Makes.trans {last : FileTree} {names more : List Octets} (h : Makes names tree made)
    (h' : Makes (names ++ more) made last) : Makes (names ++ more) tree last := by
  have keeps := h'.grows.keepsDirectories
  refine ⟨Grows.trans ?_ h'.grows, fun connected => h'.connected (h.connected connected)⟩
  exact h.grows.mono (fun _ => OnTheWay.mono keeps (List.prefix_append _ _)) (fun _ => id)

theorem makes_makeDirectoriesUp (tree : FileTree) (names : List Octets) :
    Makes names.reverse tree (tree.makeDirectoriesUp names).1 ∧
      ∀ place, (tree.makeDirectoriesUp names).2 = .ok place →
        (tree.makeDirectoriesUp names).1.follow [] names.reverse = .ok place := by
  induction names with
  | nil => exact ⟨.refl _ _, fun place h => h⟩
  | cons name above ih =>
    rw [makeDirectoriesUp, List.reverse_cons]
    obtain ⟨makes, reached⟩ := ih
    cases whole : tree.makeDirectory [] (above.reverse ++ [name]) with
    | ok made =>
      obtain ⟨made, place⟩ := made
      have root : tree.follow [] [] = .ok [] := rfl
      obtain ⟨makes, leads⟩ := Makes.of_makeDirectory whole root
      refine ⟨makes, ?_⟩
      intro other h
      rw [← Except.ok.inj h]
      exact leads
    | error number =>
      dsimp only
      by_cases missing : number = noSuchFile
      · rw [if_pos missing]
        cases result : tree.makeDirectoriesUp above with
        | mk made outcome =>
          rw [result] at makes reached
          cases outcome with
          | error number =>
            -- Those directories that were made before the failure stay.
            exact ⟨makes.trans (.mk (.refl _) id), fun place h => by cases h⟩
          | ok start =>
            have leads := reached start rfl
            dsimp only
            cases last : made.makeDirectory start [name] with
            | ok made' =>
              obtain ⟨made', place⟩ := made'
              obtain ⟨makes', leads'⟩ := Makes.of_makeDirectory last leads
              refine ⟨makes.trans makes', ?_⟩
              intro other h
              rw [← Except.ok.inj h]
              exact leads'
            | error number =>
              refine ⟨makes.trans (.mk (.refl _) id), ?_⟩
              intro place h
              obtain ⟨follows, -⟩ := directoryOr_eq_ok h
              exact follow_append_eq_ok_iff.mpr ⟨start, leads, follows⟩
      · rw [if_neg missing]
        exact ⟨.refl _ _, fun place h => (directoryOr_eq_ok h).1⟩

theorem makes_makeDirectories (tree : FileTree) (path : Path) :
    Makes path.names tree (tree.makeDirectories path).1 := by
  rw [makeDirectories]
  cases fault? path with
  | some number => exact .refl _ _
  | none =>
    have makes := (makes_makeDirectoriesUp tree path.names.reverse).1
    rw [List.reverse_reverse] at makes
    dsimp only
    cases result : tree.makeDirectoriesUp path.names.reverse with
    | mk made outcome =>
      rw [result] at makes
      cases outcome <;> exact makes

end Making

end UrlHandoff.FileTree

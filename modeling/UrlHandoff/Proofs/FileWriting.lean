import UrlHandoff.Proofs.PathFollowing

namespace UrlHandoff.FileTree

theorem lookup_filter_of_ne {place other : List Octets} (h : other ≠ place)
    (entries : List (List Octets × FileEntry)) :
    (entries.filter fun old => old.1 != place).lookup other = entries.lookup other := by
  induction entries with
  | nil => rfl
  | cons entry rest ih =>
    obtain ⟨name, content⟩ := entry
    by_cases hname : name = place
    · subst hname
      rw [List.filter_cons_of_neg (by simp), ih, List.lookup_cons, beq_false_of_ne h]
    · rw [List.filter_cons_of_pos (by simpa using hname), List.lookup_cons, List.lookup_cons, ih]

theorem at?_put_of_ne (tree : FileTree) {place other : List Octets} (entry : FileEntry)
    (h : other ≠ place) : (tree.put place entry).at? other = tree.at? other := by
  have kept : (tree.put place entry).entries.lookup other = tree.entries.lookup other := by
    rw [put, List.lookup_cons, beq_false_of_ne h]
    exact lookup_filter_of_ne h tree.entries
  rw [at?, at?, kept]

section Put

variable {tree : FileTree} {place : List Octets}

theorem ne_root (h : tree.at? place ≠ some .directory) : place ≠ [] := by
  rintro rfl
  exact h tree.at?_root

theorem keepsDirectories_put (h : tree.at? place ≠ some .directory) (entry : FileEntry) :
    KeepsDirectories tree (tree.put place entry) := by
  intro other directory
  have away : other ≠ place := by
    rintro rfl
    exact h directory
  rw [at?_put_of_ne tree entry away, directory]

theorem find_put (h : tree.at? place ≠ some .directory) (entry : FileEntry) {path : Path}
    (located : tree.locate path = .ok place) :
    (tree.put place entry).find path = .ok (place, entry) :=
  find_eq_ok_iff.mpr
    ⟨(keepsDirectories_put h entry).locate located, at?_put tree place entry (ne_root h)⟩

end Put

inductive Holds : Option FileEntry → Octets → Prop
  | nothing : Holds none []
  | file (content : Octets) : Holds (some (.file content)) content
  | program (status : Nat) : Holds (some (.program status)) []

theorem Holds.not_directory {entry : Option FileEntry} {content : Octets}
    (h : Holds entry content) : entry ≠ some .directory := by
  rintro rfl
  cases h

theorem update_eq_ok_iff {tree written : FileTree} {path : Path} {change : Octets → Octets} :
    tree.update path change = .ok written ↔
      ∃ place content, tree.locate path = .ok place ∧ Holds (tree.at? place) content ∧
        (tree.at? place = none →
          tree.at? place.dropLast = some .directory ∧ place.dropLast ∉ tree.sealed) ∧
          tree.put place (.file (change content)) = written := by
  constructor
  · intro h
    cases located : tree.locate path with
    | error number => simp [update, located] at h
    | ok place =>
      cases hat : tree.at? place with
      | none =>
        simp only [update, located, hat] at h
        cases habove : tree.at? place.dropLast with
        | none => simp [habove] at h
        | some above =>
          cases above with
          | directory =>
            simp only [habove] at h
            split at h
            · cases h
            · rename_i unsealed
              exact ⟨place, [], rfl, hat ▸ .nothing, fun _ => ⟨habove, unsealed⟩, Except.ok.inj h⟩
          | file | program | refused => simp [habove] at h
      | some entry =>
        simp only [update, located, hat] at h
        have there : tree.at? place ≠ none := by simp [hat]
        cases entry with
        | file content =>
          exact ⟨place, content, rfl, hat ▸ .file content, fun missing => absurd missing there,
            Except.ok.inj h⟩
        | program status =>
          exact ⟨place, [], rfl, hat ▸ .program status, fun missing => absurd missing there,
            Except.ok.inj h⟩
        | directory | refused => cases h
  · rintro ⟨place, content, located, held, above, rfl⟩
    rw [update, located]
    cases hat : tree.at? place with
    | none =>
      rw [hat] at held
      cases held
      obtain ⟨habove, unsealed⟩ := above hat
      simp only [hat, habove, if_neg unsealed]
    | some entry =>
      rw [hat] at held
      cases held <;> simp only [hat]

theorem find_of_update {tree written : FileTree} {path : Path} {change : Octets → Octets}
    (h : tree.update path change = .ok written) :
    ∃ place content, written.find path = .ok (place, .file (change content)) := by
  obtain ⟨place, content, located, held, -, rfl⟩ := update_eq_ok_iff.mp h
  exact ⟨place, content, find_put held.not_directory _ located⟩

theorem append_of_find {tree : FileTree} {path : Path} {place : List Octets} {content : Octets}
    (h : tree.find path = .ok (place, .file content)) (more : Octets) :
    ∃ written, tree.append path more = .ok written ∧
      written.read path = .ok (content ++ more) := by
  obtain ⟨located, hat⟩ := find_eq_ok_iff.mp h
  refine ⟨tree.put place (.file (content ++ more)), update_eq_ok_iff.mpr ?_, ?_⟩
  · exact ⟨place, content, located, hat ▸ .file content, by simp [hat], rfl⟩
  · rw [read, find_put (by simp [hat]) _ located]

theorem put_put (tree : FileTree) (place : List Octets) (entry last : FileEntry) :
    (tree.put place entry).put place last = tree.put place last := by
  simp [put, List.filter_filter]

theorem append_append {tree written : FileTree} {path : Path} {first : Octets}
    (h : tree.append path first = .ok written) (second : Octets) :
    written.append path second = tree.append path (first ++ second) := by
  obtain ⟨place, content, located, held, above, rfl⟩ := update_eq_ok_iff.mp h
  have there := at?_put tree place (.file (content ++ first)) (ne_root held.not_directory)
  have whole : tree.append path (first ++ second) =
      .ok (tree.put place (.file (content ++ (first ++ second)))) :=
    update_eq_ok_iff.mpr ⟨place, content, located, held, above, rfl⟩
  rw [whole]
  refine update_eq_ok_iff.mpr ⟨place, content ++ first, ?_, there ▸ .file _, by simp [there], ?_⟩
  · exact (keepsDirectories_put held.not_directory _).locate located
  · rw [put_put, List.append_assoc]

end UrlHandoff.FileTree

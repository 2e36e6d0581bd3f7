import UrlHandoff.FileTree
import UrlHandoff.Proofs.SeparatedParts

namespace UrlHandoff

namespace Path

def IsName (name : Octets) : Prop :=
  slash ∉ name ∧ name ≠ [] ∧ name ≠ here ∧ name ≠ parent

theorem names_append_slash (front back : Path) :
    names (front ++ slash :: back) = front.names ++ back.names := by
  rw [names, parts, splitOn_append_cons, List.filter_append]
  rfl

theorem parts_of_isName {name : Octets} (h : IsName name) : parts name = [name] :=
  List.splitOn_eq_singleton h.1

theorem names_of_isName {name : Octets} (h : IsName name) : names name = [name] := by
  rw [names, parts_of_isName h]
  simp [h.2.1, h.2.2.1]

theorem join_eq (base : Path) (name : String) :
    ∃ front, front.names = base.names ∧
      (base.join name = Octets.ofText name ∧ base = [] ∨
        base.join name = front ++ slash :: Octets.ofText name) := by
  by_cases empty : base = []
  · subst empty
    exact ⟨[], rfl, .inl ⟨by simp [join, ofText], rfl⟩⟩
  by_cases closed : base.getLast? = some slash
  · obtain ⟨front, rfl⟩ := List.getLast?_eq_some_iff.mp closed
    refine ⟨front, ?_, .inr (by simp [join, ofText])⟩
    rw [names_append_slash]
    simp [names, parts]
  · exact ⟨base, rfl, .inr (by simp [join, ofText, empty, closed])⟩

theorem names_join (base : Path) {name : String} (h : IsName (Octets.ofText name)) :
    (base.join name).names = base.names ++ [Octets.ofText name] := by
  obtain ⟨front, same, ⟨joined, rfl⟩ | joined⟩ := join_eq base name
  · rw [joined, names_of_isName h]
    rfl
  · rw [joined, names_append_slash, same, names_of_isName h]

theorem parts_join (base : Path) {name : String} (h : IsName (Octets.ofText name)) :
    ∃ front, (base.join name).parts = front ++ [Octets.ofText name] := by
  obtain ⟨front, -, ⟨joined, -⟩ | joined⟩ := join_eq base name
  · exact ⟨[], by rw [joined, parts_of_isName h, List.nil_append]⟩
  · exact ⟨front.parts, by rw [joined, parts, splitOn_append_cons, ← parts, ← parts,
      parts_of_isName h]⟩

end Path

namespace FileTree

inductive Leads (start : List Octets) (part : Octets) : List Octets → Prop
  | stays (h : part = [] ∨ part = Path.here) : Leads start part start
  | up (h : part = Path.parent) : Leads start part start.dropLast
  | into (moves : ¬(part = [] ∨ part = Path.here)) (down : part ≠ Path.parent)
      (short : part.length ≤ Path.longestName) : Leads start part (start ++ [part])

variable {tree other : FileTree} {start found : List Octets}

theorem follow_cons_eq_ok_iff {part : Octets} {rest : List Octets} :
    tree.follow start (part :: rest) = .ok found ↔
      tree.at? start = some .directory ∧
        ∃ next, Leads start part next ∧ tree.follow next rest = .ok found := by
  have directory_iff : tree.follow start (part :: rest) = .ok found →
      tree.at? start = some .directory := by
    intro h
    rw [follow] at h
    cases hat : tree.at? start with
    | none => simp [hat] at h
    | some entry =>
      cases entry with
      | directory => rfl
      | file | program | refused => simp [hat] at h
  refine ⟨fun h => ⟨directory_iff h, ?_⟩, ?_⟩
  · have hat := directory_iff h
    rw [follow, hat] at h
    dsimp only at h
    by_cases stays : part = [] ∨ part = Path.here
    · rw [if_pos stays] at h
      exact ⟨start, .stays stays, h⟩
    rw [if_neg stays] at h
    by_cases up : part = Path.parent
    · rw [if_pos up] at h
      exact ⟨_, .up up, h⟩
    rw [if_neg up] at h
    by_cases long : part.length > Path.longestName
    · rw [if_pos long] at h
      cases h
    · rw [if_neg long] at h
      exact ⟨_, .into stays up (Nat.not_lt.mp long), h⟩
  · rintro ⟨hat, next, leads, h⟩
    rw [follow, hat]
    dsimp only
    cases leads with
    | stays stays =>
      rw [if_pos stays]
      exact h
    | up up =>
      subst up
      rw [if_neg (by decide), if_pos rfl]
      exact h
    | into moves down short =>
      rw [if_neg moves, if_neg down, if_neg (Nat.not_lt.mpr short)]
      exact h

theorem follow_append_eq_ok_iff {front back : List Octets} :
    tree.follow start (front ++ back) = .ok found ↔
      ∃ middle, tree.follow start front = .ok middle ∧ tree.follow middle back = .ok found := by
  induction front generalizing start with
  | nil => simp [follow]
  | cons part rest ih =>
    simp only [List.cons_append, follow_cons_eq_ok_iff, ih]
    constructor
    · rintro ⟨hat, next, leads, middle, before, after⟩
      exact ⟨middle, ⟨hat, next, leads, before⟩, after⟩
    · rintro ⟨middle, ⟨hat, next, leads, before⟩, after⟩
      exact ⟨hat, next, leads, middle, before, after⟩

def KeepsDirectories (tree other : FileTree) : Prop :=
  ∀ place, tree.at? place = some .directory → other.at? place = some .directory

theorem KeepsDirectories.follow (keeps : KeepsDirectories tree other) {parts : List Octets}
    (h : tree.follow start parts = .ok found) : other.follow start parts = .ok found := by
  induction parts generalizing start with
  | nil => exact h
  | cons part rest ih =>
    obtain ⟨hat, next, leads, h⟩ := follow_cons_eq_ok_iff.mp h
    exact follow_cons_eq_ok_iff.mpr ⟨keeps start hat, next, leads, ih h⟩

theorem locate_eq_ok_iff {path : Path} :
    tree.locate path = .ok found ↔ fault? path = none ∧ tree.follow [] path.parts = .ok found := by
  rw [locate]
  cases fault? path <;> simp

theorem KeepsDirectories.locate (keeps : KeepsDirectories tree other) {path : Path}
    (h : tree.locate path = .ok found) : other.locate path = .ok found := by
  obtain ⟨sound, h⟩ := locate_eq_ok_iff.mp h
  exact locate_eq_ok_iff.mpr ⟨sound, keeps.follow h⟩

theorem find_eq_ok_iff {path : Path} {entry : FileEntry} :
    tree.find path = .ok (found, entry) ↔
      tree.locate path = .ok found ∧ tree.at? found = some entry := by
  constructor
  · intro h
    cases located : tree.locate path with
    | error number => simp [find, located] at h
    | ok place =>
      cases hat : tree.at? place with
      | none => simp [find, located, hat] at h
      | some there =>
        simp only [find, located, hat] at h
        obtain ⟨rfl, rfl⟩ := Prod.mk.inj (Except.ok.inj h)
        exact ⟨rfl, hat⟩
  · rintro ⟨located, hat⟩
    simp only [find, located, hat]

theorem getLast?_of_locate_join {base : Path} {name : String} {place : List Octets}
    (h : Path.IsName (Octets.ofText name))
    (located : tree.locate (base.join name) = .ok place) :
    place.getLast? = some (Octets.ofText name) := by
  obtain ⟨front, parts⟩ := Path.parts_join base h
  obtain ⟨-, follows⟩ := locate_eq_ok_iff.mp located
  rw [parts] at follows
  obtain ⟨middle, -, last⟩ := follow_append_eq_ok_iff.mp follows
  obtain ⟨-, next, leads, ends⟩ := follow_cons_eq_ok_iff.mp last
  obtain rfl := Except.ok.inj ends
  cases leads with
  | stays stays => exact absurd stays (not_or.mpr ⟨h.2.1, h.2.2.1⟩)
  | up up => exact absurd up h.2.2.2
  | into => exact List.getLast?_concat

end FileTree

end UrlHandoff

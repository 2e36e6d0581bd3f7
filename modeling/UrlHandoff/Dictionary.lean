/-!
Finite maps from texts, kept as their entries in strictly increasing order of the keys. A map has
one representation only, so equal contents mean equal dictionaries (`ext_get?`).
-/

namespace UrlHandoff

variable {α : Type}

def insertEntry (key : String) (value : α) : List (String × α) → List (String × α)
  | [] => [(key, value)]
  | entry :: rest =>
    if key < entry.1 then (key, value) :: entry :: rest
    else if entry.1 < key then entry :: insertEntry key value rest
    else (key, value) :: rest

def Ascending (entries : List (String × α)) : Prop := entries.Pairwise (·.1 < ·.1)

theorem mem_insertEntry {key : String} {value : α} {entries : List (String × α)}
    {entry : String × α} (h : entry ∈ insertEntry key value entries) :
    entry = (key, value) ∨ entry ∈ entries := by
  induction entries with
  | nil => simpa [insertEntry] using h
  | cons first rest ih =>
    simp only [insertEntry] at h
    split at h
    · simpa using h
    · split at h
      · rcases List.mem_cons.mp h with h | h
        · simp [h]
        · rcases ih h with h | h <;> simp [h]
      · rcases List.mem_cons.mp h with h | h <;> simp [h]

theorem eq_of_not_lt {a b : String} (hab : ¬a < b) (hba : ¬b < a) : a = b :=
  String.le_antisymm (String.not_lt.mp hba) (String.not_lt.mp hab)

theorem ascending_insertEntry {key : String} {value : α} {entries : List (String × α)}
    (h : Ascending entries) : Ascending (insertEntry key value entries) := by
  induction entries with
  | nil => simp [insertEntry, Ascending]
  | cons first rest ih =>
    obtain ⟨hfirst, hrest⟩ := List.pairwise_cons.mp h
    simp only [insertEntry]
    split
    next hlt =>
      refine List.pairwise_cons.mpr ⟨fun entry he => ?_, h⟩
      rcases List.mem_cons.mp he with rfl | he
      · exact hlt
      · exact String.lt_trans hlt (hfirst entry he)
    next hge =>
      split
      next hgt =>
        refine List.pairwise_cons.mpr ⟨fun entry he => ?_, ih hrest⟩
        rcases mem_insertEntry he with rfl | he
        · exact hgt
        · exact hfirst entry he
      next hle =>
        have hkey : key = first.1 := eq_of_not_lt hge hle
        exact List.pairwise_cons.mpr ⟨fun entry he => hkey ▸ hfirst entry he, hrest⟩

def valueAt (key : String) : List (String × α) → Option α
  | [] => none
  | entry :: rest => if entry.1 = key then some entry.2 else valueAt key rest

theorem valueAt_insertEntry (key : String) (value : α) (entries : List (String × α))
    (other : String) : valueAt other (insertEntry key value entries) =
      if key = other then some value else valueAt other entries := by
  induction entries with
  | nil => rfl
  | cons first rest ih =>
    simp only [insertEntry]
    split
    next => rfl
    next hge =>
      split
      next hgt =>
        have hne : first.1 ≠ key := fun e => String.lt_irrefl key (e ▸ hgt)
        simp only [valueAt, ih]
        by_cases h : key = other
        · simp [h, h ▸ hne]
        · simp [h]
      next hle =>
        have hkey : key = first.1 := eq_of_not_lt hge hle
        by_cases h : key = other <;> simp [valueAt, h, ← hkey]

theorem valueAt_eq_none_iff (key : String) (entries : List (String × α)) :
    valueAt key entries = none ↔ ∀ entry ∈ entries, entry.1 ≠ key := by
  induction entries with
  | nil => simp [valueAt]
  | cons first rest ih => by_cases h : first.1 = key <;> simp [valueAt, h, ih]

theorem valueAt_of_lt {key : String} {entries : List (String × α)}
    (h : ∀ entry ∈ entries, key < entry.1) : valueAt key entries = none := by
  apply (valueAt_eq_none_iff key entries).mpr
  intro entry member same
  exact String.lt_irrefl key (same ▸ h entry member)

theorem not_lt_of_valueAt {x y : String × α} {xs ys : List (String × α)}
    (hy : ∀ entry ∈ ys, y.1 < entry.1)
    (h : valueAt x.1 (x :: xs) = valueAt x.1 (y :: ys)) : ¬x.1 < y.1 := by
  intro hlt
  have missing : valueAt x.1 (y :: ys) = none :=
    valueAt_of_lt (List.forall_mem_cons.mpr
      ⟨hlt, fun entry member => String.lt_trans hlt (hy entry member)⟩)
  rw [← h] at missing
  simp [valueAt] at missing

theorem eq_of_valueAt {a b : List (String × α)} (ha : Ascending a) (hb : Ascending b)
    (h : ∀ key, valueAt key a = valueAt key b) : a = b := by
  induction a generalizing b with
  | nil =>
    cases b with
    | nil => rfl
    | cons y ys => simpa [valueAt] using h y.1
  | cons x xs ih =>
    cases b with
    | nil => simpa [valueAt] using h x.1
    | cons y ys =>
      obtain ⟨hx, hxs⟩ := List.pairwise_cons.mp ha
      obtain ⟨hy, hys⟩ := List.pairwise_cons.mp hb
      have hkey : x.1 = y.1 :=
        eq_of_not_lt (not_lt_of_valueAt hy (h x.1)) (not_lt_of_valueAt hx (h y.1).symm)
      have hvalue : x.2 = y.2 := by simpa [valueAt, hkey] using h x.1
      have hrest : xs = ys := by
        apply ih hxs hys
        intro key
        by_cases hfirst : x.1 = key
        · subst hfirst
          rw [valueAt_of_lt hx, valueAt_of_lt (hkey ▸ hy)]
        · simpa [valueAt, hfirst, ← hkey] using h key
      rw [hrest, Prod.ext hkey hvalue]

theorem valueAt_eq_some_iff {entries : List (String × α)} (distinct : (entries.map (·.1)).Nodup)
    (key : String) (value : α) : valueAt key entries = some value ↔ (key, value) ∈ entries := by
  induction entries with
  | nil => simp [valueAt]
  | cons first rest ih =>
    obtain ⟨fresh, distinct⟩ := List.nodup_cons.mp distinct
    rw [valueAt, List.mem_cons]
    split
    next same =>
      subst same
      have other : (first.1, value) ∉ rest :=
        fun member => fresh (List.mem_map.mpr ⟨_, member, rfl⟩)
      simp [other, Prod.ext_iff, eq_comm]
    next different =>
      rw [ih distinct]
      simp [Prod.ext_iff, Ne.symm different]

theorem valueAt_perm {a b : List (String × α)} (h : a.Perm b) (distinct : (a.map (·.1)).Nodup)
    (key : String) : valueAt key a = valueAt key b := by
  have distinct' : (b.map (·.1)).Nodup := (h.map _).nodup_iff.mp distinct
  apply Option.ext
  intro value
  rw [valueAt_eq_some_iff distinct, valueAt_eq_some_iff distinct', h.mem_iff]

theorem valueAt_append (key : String) (a b : List (String × α)) :
    valueAt key (a ++ b) = (valueAt key a).or (valueAt key b) := by
  induction a with
  | nil => rfl
  | cons first rest ih => by_cases h : first.1 = key <;> simp [valueAt, h, ih]

theorem valueAt_map {β : Type} (f : String × α → β) (key : String) (entries : List (String × α)) :
    valueAt key (entries.map fun entry => (entry.1, f entry)) =
      (valueAt key entries).map fun value => f (key, value) := by
  induction entries with
  | nil => rfl
  | cons first rest ih =>
    by_cases h : first.1 = key
    · subst h
      simp [valueAt]
    · simp [valueAt, h, ih]

theorem keys_map {β : Type} (f : String × α → β) (entries : List (String × α)) :
    (entries.map fun entry => (entry.1, f entry)).map (·.1) = entries.map (·.1) := by
  rw [List.map_map]
  rfl

structure Dictionary (α : Type) where
  entries : List (String × α) := []
  ascending : Ascending entries := by exact List.Pairwise.nil

namespace Dictionary

instance : Inhabited (Dictionary α) := ⟨{}⟩

instance : EmptyCollection (Dictionary α) := ⟨{}⟩

theorem ext_entries {a b : Dictionary α} (h : a.entries = b.entries) : a = b := by
  cases a
  cases b
  simp_all

instance [DecidableEq α] : DecidableEq (Dictionary α) := fun a b =>
  decidable_of_iff (a.entries = b.entries) ⟨ext_entries, congrArg entries⟩

def get? (d : Dictionary α) (key : String) : Option α := valueAt key d.entries

def insert (d : Dictionary α) (key : String) (value : α) : Dictionary α where
  entries := insertEntry key value d.entries
  ascending := ascending_insertEntry d.ascending

def ofList (entries : List (String × α)) : Dictionary α :=
  entries.foldl (fun d entry => d.insert entry.1 entry.2) ∅

theorem get?_insert (d : Dictionary α) (key : String) (value : α) (other : String) :
    (d.insert key value).get? other = if key = other then some value else d.get? other :=
  valueAt_insertEntry key value d.entries other

theorem ext_get? {a b : Dictionary α} (h : ∀ key, a.get? key = b.get? key) : a = b :=
  ext_entries (eq_of_valueAt a.ascending b.ascending h)

theorem distinct_keys (d : Dictionary α) : (d.entries.map (·.1)).Nodup := by
  apply List.pairwise_map.mpr
  apply d.ascending.imp
  rintro a b less same
  exact String.lt_irrefl b.1 (same ▸ less)

end Dictionary

end UrlHandoff

import UrlHandoff.Document.Text

namespace UrlHandoff.Document

theorem Entries.node?_eq_none_iff (entries : Entries) (name : String) :
    entries.node? name = none ↔ ∀ entry ∈ entries, entry.1.name ≠ name := by
  simp [node?]

theorem Entries.mem_of_node? {entries : Entries} {name : String} {node : Node}
    (h : entries.node? name = some node) :
    ∃ entry ∈ entries, entry.1.name = name ∧ entry.2 = node := by
  obtain ⟨entry, found, rfl⟩ := Option.map_eq_some_iff.mp h
  have named := List.find?_some found
  exact ⟨entry, List.mem_of_find?_eq_some found, beq_iff_eq.mp named, rfl⟩

def Distinct (entries : Entries) : Prop := (entries.map fun entry => entry.1.name).Nodup

inductive Proper : Node → Prop
  | scalar {value : Scalar} {span : Span}
      (word : ∀ n, value = .integer n → fitsWord n = true) : Proper (.scalar value span)
  | array {items : List Node} {span : Span} (each : ∀ item ∈ items, Proper item) :
      Proper (.array items span)
  | table {origin : Origin} {entries : Entries} (distinct : Distinct entries)
      (each : ∀ entry ∈ entries, Proper entry.2) : Proper (.table origin entries)
  | tables {elements : List (Span × Entries)}
      (distinct : ∀ element ∈ elements, Distinct element.2)
      (each : ∀ element ∈ elements, ∀ entry ∈ element.2, Proper entry.2) :
      Proper (.tables elements)

structure ProperEntries (entries : Entries) : Prop where
  distinct : Distinct entries
  each : ∀ entry ∈ entries, Proper entry.2

namespace ProperEntries

theorem node {origin : Origin} {entries : Entries} (h : ProperEntries entries) :
    Proper (.table origin entries) :=
  .table h.distinct h.each

theorem of_table {origin : Origin} {entries : Entries} (h : Proper (.table origin entries)) :
    ProperEntries entries := by
  cases h with
  | table distinct each => exact ⟨distinct, each⟩

theorem of_tables {elements : List (Span × Entries)} (h : Proper (.tables elements))
    {element : Span × Entries} (member : element ∈ elements) : ProperEntries element.2 := by
  cases h with
  | tables distinct each => exact ⟨distinct element member, each element member⟩

theorem tables {elements : List (Span × Entries)}
    (h : ∀ element ∈ elements, ProperEntries element.2) : Proper (.tables elements) :=
  .tables (fun element member => (h element member).distinct) fun element member =>
    (h element member).each

theorem nil : ProperEntries [] := ⟨List.nodup_nil, nofun⟩

theorem of_cons {entry : Key × Node} {rest : Entries} (h : ProperEntries (entry :: rest)) :
    Proper entry.2 ∧ ProperEntries rest := by
  obtain ⟨first, each⟩ := List.forall_mem_cons.mp h.each
  exact ⟨first, (List.nodup_cons.mp h.distinct).2, each⟩

theorem add {entries : Entries} (h : ProperEntries entries) {key : Key} {node : Node}
    (absent : entries.node? key.name = none) (proper : Proper node) :
    ProperEntries (entries.add key node) := by
  have fresh := (Entries.node?_eq_none_iff entries key.name).mp absent
  constructor
  · rw [Distinct, Entries.add, List.map_append, List.nodup_append]
    refine ⟨h.distinct, by simp, ?_⟩
    intro name hname other hother same
    obtain ⟨entry, member, rfl⟩ := List.mem_map.mp hname
    rw [List.map_singleton, List.mem_singleton] at hother
    exact fresh entry member (same.trans hother)
  · intro entry member
    rcases List.mem_append.mp member with member | member
    · exact h.each entry member
    · rw [List.mem_singleton.mp member]
      exact proper

theorem setNode {entries : Entries} (h : ProperEntries entries) (name : String) {node : Node}
    (proper : Proper node) : ProperEntries (entries.setNode name node) := by
  constructor
  · have names : (entries.setNode name node).map (fun entry => entry.1.name) =
        entries.map fun entry => entry.1.name := by
      rw [Entries.setNode, List.map_map]
      apply List.map_congr_left
      intro entry _
      dsimp only [Function.comp]
      split <;> rfl
    rw [Distinct, names]
    exact h.distinct
  · intro entry member
    obtain ⟨old, holds, rfl⟩ := List.mem_map.mp member
    split
    · exact proper
    · exact h.each old holds

theorem without {entries : Entries} (h : ProperEntries entries) (name : String) :
    ProperEntries (entries.without name) := by
  have part := List.filter_sublist (p := fun entry : Key × Node => entry.1.name != name) (l := entries)
  exact ⟨h.distinct.sublist (part.map _), fun entry member => h.each entry (part.subset member)⟩

theorem node_of_lookup {entries : Entries} (h : ProperEntries entries) {name : String}
    {node : Node} (found : entries.node? name = some node) : Proper node := by
  obtain ⟨entry, member, _, rfl⟩ := Entries.mem_of_node? found
  exact h.each entry member

end ProperEntries

theorem within_proper {dotted : Bool} {change : Origin → Entries → Option Entries}
    (keeps : ∀ origin old new, ProperEntries old → change origin old = some new →
      ProperEntries new)
    {path : List Key} {origin : Origin} {entries result : Entries} (h : ProperEntries entries)
    (hw : within dotted change path origin entries = some result) : ProperEntries result := by
  induction path generalizing origin entries result with
  | nil => exact keeps origin entries result h hw
  | cons key path ih =>
    rw [within] at hw
    split at hw
    next absent =>
      obtain ⟨inner, hinner, rfl⟩ := Option.map_eq_some_iff.mp hw
      exact h.add absent (ih .nil hinner).node
    · cases hw
    next origin inner _ found =>
      split at hw
      · cases hw
      · obtain ⟨changed, hchanged, rfl⟩ := Option.map_eq_some_iff.mp hw
        exact h.setNode key.name (ih (.of_table (h.node_of_lookup found)) hchanged).node
    next elements found =>
      obtain ⟨⟨span, inner⟩, hlast, hw⟩ := Option.bind_eq_some_iff.mp hw
      obtain ⟨changed, hchanged, rfl⟩ := Option.map_eq_some_iff.mp hw
      have proper := h.node_of_lookup found
      have hinner := ProperEntries.of_tables proper (List.mem_of_getLast? hlast)
      apply h.setNode
      apply ProperEntries.tables
      intro element member
      rcases List.mem_append.mp member with member | member
      · exact .of_tables proper (List.dropLast_subset _ member)
      · rw [List.mem_singleton.mp member]
        exact ih hinner hchanged
    · cases hw

theorem foldlM_keeps {α β : Type} {step : β → α → Option β} {P : β → Prop} {items : List α}
    {start last : β}
    (keeps : ∀ item ∈ items, ∀ old new, P old → step old item = some new → P new)
    (h : P start) (hf : items.foldlM step start = some last) : P last := by
  induction items generalizing start with
  | nil =>
    cases hf
    exact h
  | cons item items ih =>
    rw [List.foldlM_cons] at hf
    obtain ⟨next, hnext, hf⟩ := Option.bind_eq_some_iff.mp hf
    have hitem := keeps item List.mem_cons_self start next h hnext
    exact ih (fun other member => keeps other (List.mem_cons_of_mem _ member)) hitem hf

theorem Assignment.place_proper {assignment : Assignment} (proper : Proper assignment.value)
    {origin : Origin} {entries result : Entries} (h : ProperEntries entries)
    (hp : assignment.place origin entries = some result) : ProperEntries result := by
  apply within_proper _ h hp
  intro inside old new hold hnew
  unfold Assignment.add at hnew
  split at hnew
  · cases hnew
  · split at hnew
    · cases hnew
    next absent =>
      cases hnew
      exact hold.add (Option.not_isSome_iff_eq_none.mp absent) proper

theorem fill_proper {origin : Origin} {entries result : Entries} {assignments : List Assignment}
    (proper : ∀ assignment ∈ assignments, Proper assignment.value) (h : ProperEntries entries)
    (hf : fill origin entries assignments = some result) : ProperEntries result :=
  foldlM_keeps (fun assignment member _ _ hold hnew =>
    Assignment.place_proper (proper assignment member) hold hnew) h hf

theorem Section.place_proper {part : Section}
    (proper : ∀ assignment ∈ part.assignments, Proper assignment.value)
    {root result : Entries} (h : ProperEntries root) (hp : part.place root = some result) :
    ProperEntries result := by
  apply within_proper _ h hp
  intro _ outer new houter hnew
  have filled {origin : Origin} {old inner : Entries} (hold : ProperEntries old)
      (hf : fill origin old part.assignments = some inner) : ProperEntries inner :=
    fill_proper proper hold hf
  unfold Section.write at hnew
  split at hnew
  next absent =>
    obtain ⟨inner, hinner, rfl⟩ := Option.map_eq_some_iff.mp hnew
    exact houter.add absent (filled .nil hinner).node
  next old _ found =>
    obtain ⟨inner, hinner, rfl⟩ := Option.map_eq_some_iff.mp hnew
    have hold := ProperEntries.of_table (houter.node_of_lookup found)
    apply (houter.without part.key.name).add
    · apply (Entries.node?_eq_none_iff _ _).mpr
      intro entry member
      simpa using (List.mem_filter.mp member).2
    · exact (filled hold hinner).node
  next absent =>
    obtain ⟨inner, hinner, rfl⟩ := Option.map_eq_some_iff.mp hnew
    apply houter.add absent
    apply ProperEntries.tables
    intro element member
    rw [List.mem_singleton.mp member]
    exact filled .nil hinner
  next elements _ found =>
    obtain ⟨inner, hinner, rfl⟩ := Option.map_eq_some_iff.mp hnew
    apply houter.setNode
    apply ProperEntries.tables
    intro element member
    rcases List.mem_append.mp member with member | member
    · exact .of_tables (houter.node_of_lookup found) member
    · rw [List.mem_singleton.mp member]
      exact filled .nil hinner
  · cases hnew

theorem assemble_proper {leading : List Assignment} {sections : List Section} {entries : Entries}
    (hleading : ∀ assignment ∈ leading, Proper assignment.value)
    (hsections : ∀ part ∈ sections, ∀ assignment ∈ part.assignments, Proper assignment.value)
    (h : assemble leading sections = some entries) : ProperEntries entries := by
  obtain ⟨root, hroot, h⟩ := Option.bind_eq_some_iff.mp h
  exact foldlM_keeps (fun part member _ _ hold hnew =>
    Section.place_proper (hsections part member) hold hnew) (fill_proper hleading .nil hroot) h

theorem wordOf_fits {n m : Int} {s rest : List Char} (h : wordOf n s = some (m, rest)) :
    fitsWord m = true := by
  unfold wordOf at h
  split at h
  next fits =>
    cases h
    exact fits
  · cases h

theorem integer_fits {s rest : List Char} {n : Int} (h : integer s = some (n, rest)) :
    fitsWord n = true := by
  have ofRadix {radix : Nat} {s : List Char} (h : radixInteger radix s = some (n, rest)) :
      fitsWord n = true := by
    obtain ⟨digits, _, h⟩ := Option.bind_eq_some_iff.mp h
    exact wordOf_fits h
  unfold integer at h
  split at h
  · exact ofRadix h
  · exact ofRadix h
  · exact ofRadix h
  · obtain ⟨digits, _, h⟩ := Option.bind_eq_some_iff.mp h
    exact wordOf_fits h

theorem scalar_proper {s rest : List Char} {value : Scalar} (h : scalar s = some (value, rest))
    (n : Int) (hn : value = .integer n) : fitsWord n = true := by
  subst hn
  unfold scalar at h
  split at h
  · cases h
  · split at h
    · cases h
    · split at h
      · cases h
      · split at h
        · cases h
        · obtain ⟨⟨m, after⟩, hm, same⟩ := Option.map_eq_some_iff.mp h
          cases same
          exact integer_fits hm

def Sound (read : Reader Node) : Prop :=
  ∀ s node rest, read s = some (node, rest) → Proper node

theorem arrayItems_proper {value : Reader Node} (sound : Sound value) {s rest : List Char}
    {items : List Node} (h : arrayItems value s = some (items, rest)) :
    ∀ item ∈ items, Proper item := by
  fun_induction arrayItems value s generalizing items rest with
  | case1 | case3 | case6 | case7 => cases h
  | case2 =>
    cases h
    nofun
  | case4 _ start _ _ item after hitem =>
    cases h
    exact List.forall_mem_singleton.mpr (sound start item after hitem)
  | case5 _ start _ _ item after hitem _ _ _ ih =>
    obtain ⟨⟨more, last⟩, hmore, same⟩ := Option.map_eq_some_iff.mp h
    cases same
    exact List.forall_mem_cons.mpr ⟨sound start item after hitem, ih hmore⟩

theorem assignment_proper {value : Reader Node} (sound : Sound value) {s rest : List Char}
    {item : Assignment} (h : assignment value s = some (item, rest)) : Proper item.value := by
  obtain ⟨⟨⟨path, key⟩, afterKey⟩, _, h⟩ := Option.bind_eq_some_iff.mp h
  obtain ⟨afterSign, _, h⟩ := Option.bind_eq_some_iff.mp h
  obtain ⟨⟨node, last⟩, hnode, h⟩ := Option.bind_eq_some_iff.mp h
  cases h
  exact sound _ node _ hnode

theorem braceItems_proper {value : Reader Node} (sound : Sound value) {s rest : List Char}
    {items : List Assignment} (h : braceItems value s = some (items, rest)) :
    ∀ item ∈ items, Proper item.value := by
  fun_induction braceItems value s generalizing items rest with
  | case1 | case4 | case5 => cases h
  | case2 _ item after hitem =>
    cases h
    exact List.forall_mem_singleton.mpr (assignment_proper sound hitem)
  | case3 _ item after hitem _ _ _ ih =>
    obtain ⟨⟨more, last⟩, hmore, same⟩ := Option.map_eq_some_iff.mp h
    cases same
    exact List.forall_mem_cons.mpr ⟨assignment_proper sound hitem, ih hmore⟩

theorem braced_proper {value : Reader Node} (sound : Sound value) {s rest : List Char}
    {entries : Entries} (h : braced value s = some (entries, rest)) : ProperEntries entries := by
  unfold braced at h
  split at h
  · split at h
    · cases h
      exact .nil
    · obtain ⟨⟨items, after⟩, hitems, h⟩ := Option.bind_eq_some_iff.mp h
      obtain ⟨filled, hfilled, same⟩ := Option.map_eq_some_iff.mp h
      cases same
      exact fill_proper (braceItems_proper sound hitems) .nil hfilled
  · cases h

theorem eq_of_withSpan {α β : Type} {read : Reader α} {make : α → Span → β} {s rest : List Char}
    {result : β} (h : withSpan read make s = some (result, rest)) :
    ∃ value span, read s = some (value, rest) ∧ result = make value span := by
  obtain ⟨⟨value, after⟩, hvalue, same⟩ := Option.map_eq_some_iff.mp h
  cases same
  exact ⟨value, _, hvalue, rfl⟩

theorem scalar_sound : Sound (withSpan scalar .scalar) := by
  intro s node rest h
  obtain ⟨value, span, hvalue, rfl⟩ := eq_of_withSpan h
  exact .scalar (scalar_proper hvalue)

theorem value_sound (depth : Nat) : Sound (value depth) := by
  induction depth with
  | zero => exact scalar_sound
  | succ depth ih =>
    intro s node rest h
    unfold value at h
    split at h
    · obtain ⟨items, span, hitems, rfl⟩ := eq_of_withSpan h
      exact .array (arrayItems_proper ih hitems)
    · obtain ⟨entries, span, hentries, rfl⟩ := eq_of_withSpan h
      exact (braced_proper ih hentries).node
    · exact scalar_sound s node rest h

theorem line_proper {s rest : List Char} {item : Assignment}
    (h : line s = some (.assignment item, rest)) : Proper item.value := by
  unfold line at h
  split at h
  · cases h
  · split at h
    · cases h
    · split at h
      · obtain ⟨_, _, _, same⟩ := eq_of_withSpan h
        cases same
      · obtain ⟨⟨found, after⟩, hfound, same⟩ := Option.map_eq_some_iff.mp h
        cases same
        exact assignment_proper (value_sound _) hfound

theorem lines_proper {s : List Char} {found : List Line} (h : lines s = some found) :
    ∀ item, .assignment item ∈ found → Proper item.value := by
  fun_induction lines s generalizing found with
  | case1 =>
    cases h
    nofun
  | case2 | case3 | case5 => cases h
  | case4 s _ first rest hfirst _ _ _ ih =>
    obtain ⟨more, hmore, rfl⟩ := Option.map_eq_some_iff.mp h
    intro item member
    rcases List.mem_cons.mp member with rfl | member
    · exact line_proper hfirst
    · exact ih hmore item member

theorem mem_of_mem_divide (found : List Line) :
    (∀ item ∈ (divide found).1, .assignment item ∈ found) ∧
      ∀ part ∈ (divide found).2, ∀ item ∈ part.assignments, .assignment item ∈ found := by
  induction found with
  | nil => exact ⟨nofun, nofun⟩
  | cons first rest ih =>
    obtain ⟨leading, sections⟩ := ih
    have later {item : Assignment} (member : .assignment item ∈ rest) :
        .assignment item ∈ first :: rest := List.mem_cons_of_mem first member
    cases first with
    | empty =>
      exact ⟨fun item member => later (leading item member),
        fun part hpart item member => later (sections part hpart item member)⟩
    | assignment own =>
      refine ⟨fun item member => ?_, fun part hpart item member =>
        later (sections part hpart item member)⟩
      rcases List.mem_cons.mp member with rfl | member
      · exact List.mem_cons_self
      · exact later (leading item member)
    | header doubled path key span =>
      refine ⟨nofun, fun part hpart item member => ?_⟩
      rcases List.mem_cons.mp hpart with rfl | hpart
      · exact later (leading item member)
      · exact later (sections part hpart item member)

theorem parse_proper {text : List Char} {entries : Entries} (h : parse text = some entries) :
    ProperEntries entries := by
  obtain ⟨found, hfound, h⟩ := Option.bind_eq_some_iff.mp h
  obtain ⟨leading, sections⟩ := mem_of_mem_divide found
  exact assemble_proper (fun item member => lines_proper hfound item (leading item member))
    (fun part hpart item member => lines_proper hfound item (sections part hpart item member)) h

end UrlHandoff.Document

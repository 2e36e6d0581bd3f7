import UrlHandoff.Dictionary
import UrlHandoff.Proofs.DocumentReading

namespace UrlHandoff.Document

open Grammar

section Lines

theorem wholeText_toDigits (n : Nat) :
    ∃ ns, WholeText (Nat.toDigits 10 n) ns ∧ valueOf 10 ns = n := by
  rcases Nat.eq_zero_or_pos n with rfl | positive
  · exact ⟨[0], .zero, rfl⟩
  · have each : ∀ c ∈ Nat.toDigits 10 n, isDigitIn 10 c = true :=
      fun c => isDigitIn_of_mem_toDigits (by decide) (by decide)
    have head := head_toDigits positive
    have number := numberOf_toDigits (by decide : 1 < 10) (by decide) n
    cases digits : Nat.toDigits 10 n with
    | nil => exact absurd digits Nat.toDigits_ne_nil
    | cons c more =>
      rw [digits] at each head number
      obtain ⟨ns, text, same⟩ := digitText_of_digits (List.cons_ne_nil c more) each
      exact ⟨ns, .positive (fun zero => head (congrArg some zero)) text,
        (numberOf_digits same).symm.trans number⟩

theorem scalarText_toDigits {n : Nat} (fits : n < 2 ^ 63) :
    ScalarText .reader (Nat.toDigits 10 n) (.integer n) := by
  obtain ⟨ns, text, rfl⟩ := wholeText_toDigits n
  have integer := IntegerText.decimal .none text
  exact .integer integer (by omega) (by exact_mod_cast fits)

theorem lineText_field {key written : List Char} {name : String} {value : Scalar}
    (hkey : KeyPart key name) (hvalue : ScalarText .reader written value) :
    LineText .reader (key ++ ' ' :: '=' :: ' ' :: written) [.field ⟨[], name, .scalar value⟩] := by
  have blank : Blanks [' '] := List.forall_mem_singleton.mpr (.inl rfl)
  have text : KeyText (key ++ [' ']) ([] ++ [name]) := .last (List.forall_mem_nil _) hkey blank
  have held : ValueText .reader Limits.reader.depth written (.scalar value) :=
    .inl ⟨value, hvalue, rfl⟩
  have few : 0 < Limits.reader.parts := by decide
  have field := FieldText.written text few blank held
  have line := LineText.field field (.blanks (List.forall_mem_nil _))
  rw [List.append_nil, List.append_assoc] at line
  exact line

theorem lineText_header {path key : List Char} {outer name : String} (hpath : KeyPart path outer)
    (hkey : KeyPart key name) :
    LineText .reader ('[' :: (path ++ '.' :: (key ++ [']']))) [.header false [outer] name] := by
  have none : Blanks [] := List.forall_mem_nil _
  have text : KeyText (path ++ '.' :: key) ([outer] ++ [name]) := by
    have inner : KeyText key [name] := by simpa using KeyText.last none hkey none
    exact .point none hpath none inner
  have header := HeaderText.single text (by decide : 1 < Limits.reader.parts)
  have line := LineText.header none header (.blanks none)
  rw [List.append_nil, List.append_assoc] at line
  exact line

def below (texts : List (List Char)) : List Char := texts.flatMap (· ++ ['\n'])

theorem linesText_below {texts : List (List Char)} {statements : List Statement}
    (h : List.Forall₂ (fun w statement => LineText .reader w [statement]) texts statements) :
    LinesText .reader (below texts) statements := by
  induction h with
  | nil => exact .last (.empty (.blanks (List.forall_mem_nil _)))
  | @cons w statement texts statements first _ ih =>
    have text : below (w :: texts) = w ++ (['\n'] ++ below texts) := by simp [below]
    rw [text]
    exact .next first .feed ih

end Lines

namespace Grammar

def Items.extend (items : Items) (entries : List (String × Tree)) : Items :=
  fun name => (items name).or (valueAt name entries)

theorem Items.extend_nil (items : Items) : items.extend [] = items :=
  funext fun _ => Option.or_none

theorem Items.set_extend {items : Items} {name : String} (absent : items name = .none) (tree : Tree)
    (entries : List (String × Tree)) :
    (items.set name tree).extend entries = items.extend ((name, tree) :: entries) := by
  funext other
  by_cases same : name = other
  · subst same
    simp [extend, set, valueAt, absent]
  · simp [extend, set, valueAt, same, Ne.symm same]

theorem Items.free_set {items : Items} {name : String} {names : List String} (fresh : name ∉ names)
    (free : ∀ other ∈ names, items other = .none) (tree : Tree) :
    ∀ other ∈ names, items.set name tree other = .none := by
  intro other member
  have different : other ≠ name := fun same => fresh (same ▸ member)
  exact (Function.update_of_ne different ..).trans (free other member)

theorem Items.data_extend (entries : List (String × Tree)) :
    (Items.none.extend entries).data =
      fun name => valueAt name (entries.map fun entry => (entry.1, entry.2.datum)) := by
  funext name
  rw [valueAt_map, Items.data, extend, Items.none, Option.none_or]
  cases valueAt name entries <;> rfl

end Grammar

abbrev Fields := List (String × Scalar)

def plainField (entry : String × Scalar) : Field := ⟨[], entry.1, .scalar entry.2⟩

def Fields.trees (fields : Fields) : List (String × Tree) :=
  fields.map fun field => (field.1, .value (.scalar field.2))

def Fields.data (fields : Fields) : List (String × Datum) :=
  fields.map fun field => (field.1, .scalar field.2)

theorem Fields.data_extend (fields : Fields) :
    (Items.none.extend fields.trees).data = fun name => valueAt name fields.data := by
  rw [Items.data_extend, trees, List.map_map]
  rfl

theorem fills_plainField {kind : Kind} {fields : Fields} (distinct : (fields.map (·.1)).Nodup)
    {items : Items} (free : ∀ name ∈ fields.map (·.1), items name = none) :
    Fills kind (fields.map plainField) items (items.extend fields.trees) := by
  induction fields generalizing items with
  | nil =>
    rw [Fields.trees, List.map_nil, List.map_nil, Items.extend_nil]
    exact .none
  | cons field fields ih =>
    obtain ⟨fresh, distinct⟩ := List.nodup_cons.mp distinct
    obtain ⟨absent, free⟩ := List.forall_mem_cons.mp free
    have rest := ih distinct (Items.free_set fresh free (.value (.scalar field.2)))
    rw [Items.set_extend absent] at rest
    exact .next (.here (.added nofun absent)) rest

def plainHeaded (outer : String) (table : String × Fields) : Headed :=
  ⟨false, [outer], table.1, table.2.map plainField⟩

def tableTree (table : String × Fields) : Tree := .table .header (Items.none.extend table.2.trees)

def tableTrees (tables : List (String × Fields)) : List (String × Tree) :=
  tables.map fun table => (table.1, tableTree table)

def tableData (tables : List (String × Fields)) : List (String × Datum) :=
  tables.map fun table => (table.1, .table fun name => valueAt name table.2.data)

theorem data_extend_tableTrees (tables : List (String × Fields)) :
    (Items.none.extend (tableTrees tables)).data = fun name => valueAt name (tableData tables) := by
  have same (table : String × Fields) :
      (tableTree table).datum = .table fun name => valueAt name table.2.data :=
    congrArg Datum.table table.2.data_extend
  simp only [Items.data_extend, tableTrees, tableData, List.map_map, Function.comp_def, same]

section Tables

variable {outer : String} {tables : List (String × Fields)}

theorem opens_plainHeaded {table : String × Fields} (distinct : (table.2.map (·.1)).Nodup)
    {inner : Items} (absent : inner table.1 = none) :
    (plainHeaded outer table).Opens .passage inner (inner.set table.1 (tableTree table)) :=
  .table rfl absent (fills_plainField distinct fun _ _ => rfl)

theorem along_first {table : String × Fields} (distinct : (table.2.map (·.1)).Nodup)
    {root : Items} (missing : root outer = none) :
    Along false (plainHeaded outer table).Opens [outer] .passage root
      (root.set outer (.table .passage (Items.none.set table.1 (tableTree table)))) :=
  .made missing (.here (opens_plainHeaded distinct rfl))

theorem along_further {table : String × Fields} (distinct : (table.2.map (·.1)).Nodup)
    (root : Items) {inner : Items} (absent : inner table.1 = none) :
    Along false (plainHeaded outer table).Opens [outer] .passage
      (root.set outer (.table .passage inner))
      (root.set outer (.table .passage (inner.set table.1 (tableTree table)))) := by
  let old : Items := root.set outer (.table .passage inner)
  have held : old outer = some (.table .passage inner) := Function.update_self ..
  have twice (tree : Tree) : old.set outer tree = root.set outer tree := Function.update_idem ..
  rw [← twice (.table .passage (inner.set table.1 (tableTree table)))]
  exact .into held nofun (.here (opens_plainHeaded distinct absent))

theorem run_plainHeaded (outer : String) (distinct : (tables.map (·.1)).Nodup)
    (each : ∀ table ∈ tables, (table.2.map (·.1)).Nodup) (root : Items) {inner : Items}
    (free : ∀ name ∈ tables.map (·.1), inner name = none) :
    Run (fun part => Along false part.Opens part.path .passage) (tables.map (plainHeaded outer))
      (root.set outer (.table .passage inner))
      (root.set outer (.table .passage (inner.extend (tableTrees tables)))) := by
  induction tables generalizing inner with
  | nil =>
    rw [tableTrees, List.map_nil, List.map_nil, Items.extend_nil]
    exact .none
  | cons table tables ih =>
    obtain ⟨fresh, distinct⟩ := List.nodup_cons.mp distinct
    obtain ⟨own, each⟩ := List.forall_mem_cons.mp each
    obtain ⟨absent, free⟩ := List.forall_mem_cons.mp free
    have rest := ih distinct each (Items.free_set fresh free (tableTree table))
    rw [Items.set_extend absent] at rest
    exact .next (along_further own root absent) rest

structure Orderly (outer : String) (fields : Fields) (tables : List (String × Fields)) : Prop where
  own : (fields.map (·.1)).Nodup
  outside : outer ∉ fields.map (·.1)
  inside : (tables.map (·.1)).Nodup
  each : ∀ table ∈ tables, (table.2.map (·.1)).Nodup

def writtenData (outer : String) (fields : Fields) : List (String × Fields) → List (String × Datum)
  | [] => fields.data
  | table :: tables =>
    fields.data ++ [(outer, .table fun name => valueAt name (tableData (table :: tables)))]

theorem missing_extend {fields : Fields} (outside : outer ∉ fields.map (·.1)) :
    Items.none.extend fields.trees outer = none := by
  rw [Items.extend, Items.none, Option.none_or, valueAt_eq_none_iff]
  rintro _ member rfl
  obtain ⟨field, held, rfl⟩ := List.mem_map.mp member
  exact outside (List.mem_map.mpr ⟨field, held, rfl⟩)

theorem data_set_extend {fields : Fields} (outside : outer ∉ fields.map (·.1)) (tree : Tree) :
    ((Items.none.extend fields.trees).set outer tree).data =
      fun name => valueAt name (fields.data ++ [(outer, tree.datum)]) := by
  have joined : (Items.none.extend fields.trees).set outer tree =
      Items.none.extend (fields.trees ++ [(outer, tree)]) := by
    rw [← Items.extend_nil ((Items.none.extend fields.trees).set outer tree),
      Items.set_extend (missing_extend outside)]
    funext name
    simp [Items.extend, Items.none, valueAt_append]
  rw [joined, Items.data_extend, List.map_append, Fields.trees, List.map_map]
  rfl

theorem assembles_plain {fields : Fields} (orderly : Orderly outer fields tables) :
    ∃ items, Assembles (fields.map plainField) (tables.map (plainHeaded outer)) items ∧
      items.data = fun name => valueAt name (writtenData outer fields tables) := by
  have filled : Fills .passage (fields.map plainField) .none (Items.none.extend fields.trees) :=
    fills_plainField orderly.own fun _ _ => rfl
  cases tables with
  | nil => exact ⟨_, ⟨_, filled, .none⟩, fields.data_extend⟩
  | cons table tables =>
    obtain ⟨fresh, distinct⟩ := List.nodup_cons.mp orderly.inside
    obtain ⟨own, each⟩ := List.forall_mem_cons.mp orderly.each
    have first := along_first own (missing_extend orderly.outside)
    have free := Items.free_set fresh (fun _ _ => rfl) (tableTree table)
    have rest := run_plainHeaded outer distinct each (Items.none.extend fields.trees) free
    rw [Items.set_extend rfl] at rest
    refine ⟨_, ⟨_, filled, .next first rest⟩, ?_⟩
    rw [data_set_extend orderly.outside]
    have inner := congrArg Datum.table (data_extend_tableTrees (table :: tables))
    exact congrArg (fun datum name => valueAt name (fields.data ++ [(outer, datum)])) inner

theorem parse_below {fields : Fields} (orderly : Orderly outer fields tables)
    {texts : List (List Char)}
    (h : List.Forall₂ (fun w statement => LineText .reader w [statement]) texts
      ((fields.map plainField).map .field ++
        (tables.map (plainHeaded outer)).flatMap Headed.statements)) :
    ∃ entries, parse (below texts) = some entries ∧
      content entries = fun name => valueAt name (writtenData outer fields tables) := by
  obtain ⟨items, assembles, same⟩ := assembles_plain orderly
  rw [← same]
  have said : Says .reader ([] ++ below texts) items.data :=
    .written (.inl rfl) (linesText_below h) assembles
  exact parse_of_says said

end Tables

end UrlHandoff.Document

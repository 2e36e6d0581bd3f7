import UrlHandoff.Proofs.DocumentTree

namespace UrlHandoff.Document

inductive Datum
  | scalar (value : Scalar)
  | sequence (items : List Datum)
  | table (item? : String → Option Datum)

mutual

def Node.datum : Node → Datum
  | .scalar value _ => .scalar value
  | .array items _ => .sequence (itemData items)
  | .table _ entries => .table (content entries)
  | .tables elements => .sequence (elementData elements)

def itemData : List Node → List Datum
  | [] => []
  | item :: rest => item.datum :: itemData rest

def elementData : List (Span × List (Key × Node)) → List Datum
  | [] => []
  | (_, entries) :: rest => .table (content entries) :: elementData rest

def content : List (Key × Node) → String → Option Datum
  | [], _ => none
  | (key, node) :: rest, name => if key.name = name then some node.datum else content rest name

end

theorem content_eq_none_iff (entries : Entries) (name : String) :
    content entries name = none ↔ ∀ entry ∈ entries, entry.1.name ≠ name := by
  induction entries with
  | nil => simp [content]
  | cons entry rest ih => by_cases h : entry.1.name = name <;> simp [content, h, ih]

theorem content_singleton (entry : Key × Node) (name : String) :
    content [entry] name = if entry.1.name = name then some entry.2.datum else none := rfl

theorem content_rest {entry : Key × Node} {rest : Entries} (distinct : Distinct (entry :: rest)) :
    content rest entry.1.name = none := by
  apply (content_eq_none_iff rest entry.1.name).mpr
  intro other member same
  exact (List.nodup_cons.mp distinct).1 (List.mem_map.mpr ⟨other, member, same⟩)

theorem content_eq_some_iff {entries : Entries} (distinct : Distinct entries) (name : String)
    (datum : Datum) :
    content entries name = some datum ↔
      ∃ entry ∈ entries, entry.1.name = name ∧ entry.2.datum = datum := by
  induction entries with
  | nil => simp [content]
  | cons entry rest ih =>
    have hrest : Distinct rest := (List.nodup_cons.mp distinct).2
    simp only [content, List.mem_cons, or_and_right, exists_or, exists_eq_left, ← ih hrest]
    by_cases h : entry.1.name = name
    · subst h
      simp [content_rest distinct]
    · simp [h]

theorem datum_eq_scalar_iff (node : Node) (value : Scalar) :
    node.datum = .scalar value ↔ ∃ span, node = .scalar value span := by
  cases node <;> simp [Node.datum]

theorem datum_eq_table_iff (node : Node) (item? : String → Option Datum) :
    node.datum = .table item? ↔
      ∃ origin entries, node = .table origin entries ∧ content entries = item? := by
  cases node with
  | table origin entries =>
    constructor
    · intro h
      exact ⟨origin, entries, rfl, Datum.table.inj h⟩
    · rintro ⟨_, _, same, rfl⟩
      cases same
      rfl
  | _ => simp [Node.datum]

end UrlHandoff.Document

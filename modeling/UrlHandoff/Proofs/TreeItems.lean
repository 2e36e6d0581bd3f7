import UrlHandoff.Proofs.DocumentGrammar

namespace UrlHandoff.Document

open Grammar

def Origin.kind : Origin → Kind
  | header _ | braces _ => .header
  | passage => .passage
  | dotted => .dotted

mutual

def Node.tree : Node → Tree
  | .scalar value _ => .value (.scalar value)
  | .array items _ => .value (.sequence (itemData items))
  | .table (.braces _) entries => .value (.table (content entries))
  | .table (.header _) entries => .table .header (entryItems entries)
  | .table .passage entries => .table .passage (entryItems entries)
  | .table .dotted entries => .table .dotted (entryItems entries)
  | .tables elements => .tables (elementItems elements)

def entryItems : List (Key × Node) → String → Option Tree
  | [], _ => none
  | (key, node) :: rest, name => if key.name = name then some node.tree else entryItems rest name

def elementItems : List (Span × List (Key × Node)) → List (String → Option Tree)
  | [] => []
  | (_, entries) :: rest => entryItems entries :: elementItems rest

end

theorem tree_table {origin : Origin} (grows : ∀ span, origin ≠ .braces span) (entries : Entries) :
    (Node.table origin entries).tree = .table origin.kind (entryItems entries) := by
  cases origin with
  | braces span => exact absurd rfl (grows span)
  | _ => rfl

theorem elementItems_eq (elements : List (Span × Entries)) :
    elementItems elements = elements.map fun element => entryItems element.2 := by
  induction elements with
  | nil => rfl
  | cons element rest ih => rw [elementItems, ih, List.map_cons]

mutual

theorem datum_tree : (node : Node) → node.tree.datum = node.datum
  | .scalar _ _ => rfl
  | .array _ _ => rfl
  | .table (.braces _) _ => rfl
  | .table (.header _) entries => congrArg Datum.table (data_entryItems entries)
  | .table .passage entries => congrArg Datum.table (data_entryItems entries)
  | .table .dotted entries => congrArg Datum.table (data_entryItems entries)
  | .tables elements => congrArg Datum.sequence (tablesData_elementItems elements)

theorem data_entryItems : (entries : List (Key × Node)) →
    Items.data (entryItems entries) = content entries
  | [] => rfl
  | (key, node) :: rest => by
    funext name
    have later := congrFun (data_entryItems rest) name
    by_cases named : key.name = name
    · simp [Items.data, entryItems, content, named, optionDatum, datum_tree node]
    · simpa [Items.data, entryItems, content, named] using later

theorem tablesData_elementItems : (elements : List (Span × List (Key × Node))) →
    tablesData (elementItems elements) = elementData elements
  | [] => rfl
  | (_, entries) :: rest =>
    congrArg₂ (fun first more => Datum.table first :: more) (data_entryItems entries)
      (tablesData_elementItems rest)

end

theorem node?_cons (entry : Key × Node) (rest : Entries) (name : String) :
    Entries.node? (entry :: rest) name =
      if entry.1.name = name then some entry.2 else Entries.node? rest name := by
  by_cases named : entry.1.name = name <;> simp [Entries.node?, named]

theorem entryItems_eq (entries : Entries) (name : String) :
    entryItems entries name = (entries.node? name).map Node.tree := by
  induction entries with
  | nil => rfl
  | cons entry rest ih =>
    rw [entryItems, node?_cons, ih]
    split <;> rfl

theorem entryItems_add {entries : Entries} {key : Key} (absent : entries.node? key.name = none)
    (node : Node) :
    entryItems (entries.add key node) = Items.set (entryItems entries) key.name node.tree := by
  funext name
  rw [entryItems_eq, Entries.node?_add, Items.set, Function.update_apply, entryItems_eq]
  by_cases named : name = key.name
  · subst named
    simp [absent]
  · simp [named, Ne.symm named]

theorem node?_setNode (entries : Entries) (name : String) (node : Node) (other : String) :
    (entries.setNode name node).node? other =
      if other = name then (entries.node? name).map fun _ => node else entries.node? other := by
  induction entries with
  | nil => simp [Entries.setNode, Entries.node?]
  | cons entry rest ih =>
    rw [Entries.setNode, List.map_cons, node?_cons, node?_cons, node?_cons]
    rw [Entries.setNode] at ih
    by_cases named : entry.1.name = name
    · subst named
      by_cases same : other = entry.1.name
      · simp [same]
      · simp [same, Ne.symm same, ih]
    · by_cases same : entry.1.name = other
      · subst same
        simp [named]
      · simp [named, same, ih]

theorem entryItems_setNode {entries : Entries} {name : String} {old : Node}
    (held : entries.node? name = some old) (node : Node) :
    entryItems (entries.setNode name node) = Items.set (entryItems entries) name node.tree := by
  funext other
  rw [entryItems_eq, node?_setNode, held, Items.set, Function.update_apply, entryItems_eq]
  split <;> rfl

theorem node?_without (entries : Entries) (name other : String) :
    (entries.without name).node? other = if other = name then none else entries.node? other := by
  induction entries with
  | nil => simp [Entries.without, Entries.node?]
  | cons entry rest ih =>
    rw [Entries.without] at ih ⊢
    by_cases named : entry.1.name = name
    · subst named
      rw [List.filter_cons_of_neg (by simp), ih]
      by_cases same : other = entry.1.name
      · simp [same]
      · simp [same, node?_cons, Ne.symm same]
    · by_cases same : entry.1.name = other
      · subst same
        simp [named, node?_cons]
      · simp [named, same, ih, node?_cons]

theorem entryItems_without_add (entries : Entries) (key : Key) (node : Node) :
    entryItems ((entries.without key.name).add key node) =
      Items.set (entryItems entries) key.name node.tree := by
  have absent : (entries.without key.name).node? key.name = none := by
    rw [node?_without, if_pos rfl]
  rw [entryItems_add absent]
  funext name
  simp only [Items.set, Function.update_apply, entryItems_eq, node?_without]
  split <;> rfl

theorem isImplicit_iff (origin : Origin) : origin.isImplicit = true ↔ origin.kind ≠ .header := by
  cases origin <;> simp [Origin.isImplicit, Origin.kind]

theorem node_of_tree_table {node : Node} {kind : Kind} {items : Items}
    (h : node.tree = .table kind items) :
    ∃ origin entries, node = .table origin entries ∧ (∀ span, origin ≠ .braces span) ∧
      origin.kind = kind ∧ entryItems entries = items := by
  cases node with
  | table origin entries =>
    cases origin with
    | braces => cases h
    | _ =>
      cases h
      exact ⟨_, entries, rfl, nofun, rfl, rfl⟩
  | _ => cases h

theorem node_of_tree_tables {node : Node} {elements : List Items} (h : node.tree = .tables elements) :
    ∃ spanned : List (Span × Entries), node = .tables spanned ∧
      spanned.map (fun element => entryItems element.2) = elements := by
  cases node with
  | tables spanned =>
    rw [Node.tree, elementItems_eq] at h
    exact ⟨spanned, rfl, Tree.tables.inj h⟩
  | table origin entries => cases origin <;> cases h
  | _ => cases h

def made (dotted : Bool) : Origin := if dotted then .dotted else .passage

theorem kind_made (dotted : Bool) :
    (made dotted).kind = if dotted then Kind.dotted else Kind.passage := by
  cases dotted <;> rfl

theorem made_grows (dotted : Bool) (span : Span) : made dotted ≠ .braces span := by
  cases dotted <;> nofun

structure Realizes (change : Origin → Entries → Option Entries)
    (Change : Kind → Items → Items → Prop) : Prop where
  sound {origin : Origin} {entries result : Entries} (h : change origin entries = some result) :
    Change origin.kind (entryItems entries) (entryItems result)
  complete {origin : Origin} {entries : Entries} {items : Items}
    (h : Change origin.kind (entryItems entries) items) :
    ∃ result, change origin entries = some result ∧ entryItems result = items

section Within

variable {dotted : Bool} {change : Origin → Entries → Option Entries}
  {Change : Kind → Items → Items → Prop}

theorem along_of_within (realizes : Realizes change Change) {path : List Key} {origin : Origin}
    {entries result : Entries} (h : within dotted change path origin entries = some result) :
    Along dotted Change (path.map Key.name) origin.kind (entryItems entries) (entryItems result) := by
  induction path generalizing origin entries result with
  | nil => exact .here (realizes.sound h)
  | cons key path ih =>
    rw [within] at h
    have held := entryItems_eq entries key.name
    split at h
    next absent =>
      obtain ⟨inner, changed, rfl⟩ := Option.map_eq_some_iff.mp h
      rw [absent] at held
      have inside := ih changed
      change Along dotted Change _ (made dotted).kind _ _ at inside
      change Along dotted Change _ _ _ (entryItems (entries.add key (.table (made dotted) inner)))
      rw [entryItems_add absent, tree_table (made_grows dotted)]
      rw [kind_made] at inside ⊢
      exact .made held inside
    · cases h
    next inside inner grows found =>
      split at h
      · cases h
      next opened =>
        obtain ⟨new, changed, rfl⟩ := Option.map_eq_some_iff.mp h
        rw [found, Option.map_some, tree_table grows] at held
        rw [entryItems_setNode found, tree_table grows]
        refine .into held (fun fromDotted => ?_) (ih changed)
        simp only [fromDotted, Bool.true_and, Bool.not_eq_true', Bool.not_eq_false] at opened
        exact (isImplicit_iff inside).mp opened
    next elements found =>
      obtain ⟨⟨span, inner⟩, last, h⟩ := Option.bind_eq_some_iff.mp h
      obtain ⟨new, changed, rfl⟩ := Option.map_eq_some_iff.mp h
      have split := List.dropLast_append_getLast? _ last
      rw [found, Option.map_some, Node.tree, ← split, elementItems_eq, List.map_append,
        List.map_singleton] at held
      rw [entryItems_setNode found, Node.tree, elementItems_eq, List.map_append, List.map_singleton]
      exact .element held (ih changed)
    · cases h

theorem within_of_along (realizes : Realizes change Change) {path : List Key} {origin : Origin}
    {entries : Entries} {items : Items}
    (h : Along dotted Change (path.map Key.name) origin.kind (entryItems entries) items) :
    ∃ result, within dotted change path origin entries = some result ∧ entryItems result = items := by
  induction path generalizing origin entries items with
  | nil =>
    cases h with
    | here h => exact realizes.complete h
  | cons key path ih =>
    rw [within]
    cases h with
    | made absent h =>
      rw [entryItems_eq, Option.map_eq_none_iff] at absent
      rw [← kind_made] at h ⊢
      have inside : Along dotted Change (path.map Key.name) (made dotted).kind (entryItems []) _ := h
      obtain ⟨inner, changed, rfl⟩ := ih inside
      refine ⟨entries.add key (.table (made dotted) inner), ?_, ?_⟩
      · rw [absent]
        exact congrArg (Option.map _) changed
      · rw [entryItems_add absent, tree_table (made_grows dotted)]
    | into held opened h =>
      rw [entryItems_eq, Option.map_eq_some_iff] at held
      obtain ⟨node, found, same⟩ := held
      obtain ⟨inside, inner, rfl, grows, rfl, rfl⟩ := node_of_tree_table same
      obtain ⟨new, changed, rfl⟩ := ih h
      refine ⟨entries.setNode key.name (.table inside new), ?_, ?_⟩
      · have enters : (dotted && !inside.isImplicit) = false := by
          rw [Bool.and_eq_false_imp, Bool.not_eq_false']
          exact fun fromDotted => (isImplicit_iff inside).mpr (opened fromDotted)
        cases inside with
        | braces span => exact absurd rfl (grows span)
        | _ => simp only [found, enters, changed, Bool.false_eq_true, if_false, Option.map_some]
      · rw [entryItems_setNode found, tree_table grows]
    | element held h =>
      rw [entryItems_eq, Option.map_eq_some_iff] at held
      obtain ⟨node, found, same⟩ := held
      obtain ⟨spanned, rfl, each⟩ := node_of_tree_tables same
      obtain ⟨front, last, rfl, rfl, hlast⟩ := List.map_eq_append_iff.mp each
      obtain ⟨⟨span, inner⟩, rfl, rfl⟩ := List.map_eq_singleton_iff.mp hlast
      have inside : Along dotted Change (path.map Key.name) (Origin.header span).kind
        (entryItems inner) _ := h
      obtain ⟨new, changed, rfl⟩ := ih inside
      refine ⟨entries.setNode key.name (.tables (front ++ [(span, new)])), ?_, ?_⟩
      · simp [found, changed]
      · simp [entryItems_setNode found, Node.tree, elementItems_eq]

end Within

def Closed (node : Node) : Prop := node.tree = .value node.datum

def Assignment.field (assignment : Assignment) : Field :=
  ⟨assignment.path.map Key.name, assignment.key.name, assignment.value.datum⟩

def Section.headed (part : Section) : Headed :=
  ⟨part.doubled, part.path.map Key.name, part.key.name, part.assignments.map Assignment.field⟩

section Assembling

theorem run_of_foldlM {α β γ δ : Type} {step : β → α → Option β} {Step : γ → δ → δ → Prop}
    (label : α → γ) (erase : β → δ) {items : List α}
    (sound : ∀ item ∈ items, ∀ old new, step old item = some new →
      Step (label item) (erase old) (erase new))
    {first last : β} (h : items.foldlM step first = some last) :
    Run Step (items.map label) (erase first) (erase last) := by
  induction items generalizing first with
  | nil =>
    cases h
    exact .none
  | cons item items ih =>
    rw [List.foldlM_cons] at h
    obtain ⟨next, stepped, h⟩ := Option.bind_eq_some_iff.mp h
    exact .next (sound item List.mem_cons_self first next stepped)
      (ih (fun other member => sound other (List.mem_cons_of_mem _ member)) h)

theorem foldlM_of_run {α β γ δ : Type} {step : β → α → Option β} {Step : γ → δ → δ → Prop}
    (label : α → γ) (erase : β → δ) {items : List α}
    (complete : ∀ item ∈ items, ∀ old new, Step (label item) (erase old) new →
      ∃ result, step old item = some result ∧ erase result = new)
    {first : β} {last : δ} (h : Run Step (items.map label) (erase first) last) :
    ∃ result, items.foldlM step first = some result ∧ erase result = last := by
  induction items generalizing first with
  | nil =>
    cases h
    exact ⟨first, rfl, rfl⟩
  | cons item items ih =>
    cases h with
    | next h later =>
      obtain ⟨next, stepped, rfl⟩ := complete item List.mem_cons_self first _ h
      obtain ⟨result, folded, rfl⟩ :=
        ih (fun other member => complete other (List.mem_cons_of_mem _ member)) later
      refine ⟨result, ?_, rfl⟩
      rw [List.foldlM_cons, stepped]
      exact folded

theorem kind_eq_dotted_iff (origin : Origin) : origin.kind = .dotted ↔ origin = .dotted := by
  cases origin <;> simp [Origin.kind]

theorem entryItems_eq_none_iff (entries : Entries) (name : String) :
    entryItems entries name = none ↔ entries.node? name = none := by
  rw [entryItems_eq, Option.map_eq_none_iff]

theorem add_realizes {assignment : Assignment} (closed : Closed assignment.value) :
    Realizes assignment.add assignment.field.Adds where
  sound := by
    intro origin entries result h
    obtain ⟨own, h⟩ := Option.ite_none_left_eq_some.mp h
    obtain ⟨absent, same⟩ := Option.ite_none_left_eq_some.mp h
    cases same
    rw [Option.not_isSome_iff_eq_none] at absent
    rw [entryItems_add absent, closed]
    refine .added (fun nested => ?_) ((entryItems_eq_none_iff _ _).mpr absent)
    apply (kind_eq_dotted_iff origin).mpr
    by_contra other
    exact own ⟨fun direct => nested (congrArg (List.map Key.name) direct), other⟩
  complete := by
    rintro origin entries items ⟨own, absent⟩
    have missing := (entryItems_eq_none_iff _ _).mp absent
    refine ⟨entries.add assignment.key assignment.value, ?_, ?_⟩
    · rw [Assignment.add, if_neg, if_neg]
      · rw [Option.not_isSome_iff_eq_none]
        exact missing
      · rintro ⟨nested, other⟩
        have dotted := own fun direct => nested (List.map_eq_nil_iff.mp direct)
        exact other ((kind_eq_dotted_iff origin).mp dotted)
    · rw [entryItems_add missing, closed]
      rfl

theorem fills_of_fill {origin : Origin} {assignments : List Assignment} {entries result : Entries}
    (closed : ∀ assignment ∈ assignments, Closed assignment.value)
    (h : fill origin entries assignments = some result) :
    Fills origin.kind (assignments.map Assignment.field) (entryItems entries) (entryItems result) :=
  run_of_foldlM Assignment.field entryItems
    (fun assignment member _ _ placed =>
      along_of_within (add_realizes (closed assignment member)) placed) h

theorem fill_of_fills (origin : Origin) (entries : Entries) {assignments : List Assignment}
    {items : Items} (closed : ∀ assignment ∈ assignments, Closed assignment.value)
    (h : Fills origin.kind (assignments.map Assignment.field) (entryItems entries) items) :
    ∃ result, fill origin entries assignments = some result ∧ entryItems result = items :=
  foldlM_of_run Assignment.field entryItems
    (fun assignment member _ _ placed =>
      within_of_along (add_realizes (closed assignment member)) placed) h

section Header

variable {part : Section} (closed : ∀ assignment ∈ part.assignments, Closed assignment.value)

include closed

theorem opens_of_write {kind : Kind} {entries result : Entries}
    (h : part.write entries = some result) :
    part.headed.Opens kind (entryItems entries) (entryItems result) := by
  have held := entryItems_eq entries part.key.name
  unfold Section.write at h
  dsimp only at h
  split at h
  next single absent =>
    obtain ⟨inner, filled, rfl⟩ := Option.map_eq_some_iff.mp h
    rw [absent] at held
    rw [entryItems_add absent]
    exact .table single held (fills_of_fill closed filled)
  next old single found =>
    obtain ⟨inner, filled, rfl⟩ := Option.map_eq_some_iff.mp h
    rw [found] at held
    rw [entryItems_without_add]
    exact .passage single held (fills_of_fill closed filled)
  next doubled absent =>
    obtain ⟨inner, filled, rfl⟩ := Option.map_eq_some_iff.mp h
    rw [absent] at held
    rw [entryItems_add absent]
    exact .first doubled held (fills_of_fill closed filled)
  next elements doubled found =>
    obtain ⟨inner, filled, rfl⟩ := Option.map_eq_some_iff.mp h
    rw [found, Option.map_some, Node.tree] at held
    rw [entryItems_setNode found, Node.tree, elementItems_eq, List.map_append, ← elementItems_eq]
    exact .further doubled held (fills_of_fill closed filled)
  · cases h

theorem write_of_opens {kind : Kind} {entries : Entries} {items : Items}
    (h : part.headed.Opens kind (entryItems entries) items) :
    ∃ result, part.write entries = some result ∧ entryItems result = items := by
  -- Of the fields under the header only where they go differs.
  have onto (old : Entries) {new : Items}
      (h : Fills .header part.headed.fields (entryItems old) new) :
      ∃ inner, fill (.header part.reach) old part.assignments = some inner ∧
        entryItems inner = new := fill_of_fills _ old closed h
  cases h with
  | table single absent h =>
    replace single : part.doubled = false := single
    replace absent := (entryItems_eq_none_iff entries part.key.name).mp absent
    obtain ⟨inner, filled, rfl⟩ := onto [] h
    refine ⟨entries.add part.key (.table (.header part.reach) inner), ?_, entryItems_add absent _⟩
    simp [Section.write, single, absent, filled]
  | passage single held h =>
    replace single : part.doubled = false := single
    obtain ⟨node, found, same⟩ := Option.map_eq_some_iff.mp ((entryItems_eq _ _).symm.trans held)
    obtain ⟨inside, old, rfl, grows, kind, rfl⟩ := node_of_tree_table same
    replace found : entries.node? part.key.name = some (.table inside old) := found
    obtain ⟨inner, filled, rfl⟩ := onto old h
    refine ⟨(entries.without part.key.name).add part.key (.table (.header part.reach) inner), ?_,
      entryItems_without_add _ _ _⟩
    cases inside with
    | passage => simp [Section.write, single, found, filled]
    | _ => cases kind
  | first doubled absent h =>
    replace doubled : part.doubled = true := doubled
    replace absent := (entryItems_eq_none_iff entries part.key.name).mp absent
    obtain ⟨inner, filled, rfl⟩ := onto [] h
    refine ⟨entries.add part.key (.tables [(part.reach, inner)]), ?_, entryItems_add absent _⟩
    simp [Section.write, doubled, absent, filled]
  | further doubled held h =>
    replace doubled : part.doubled = true := doubled
    obtain ⟨node, found, same⟩ := Option.map_eq_some_iff.mp ((entryItems_eq _ _).symm.trans held)
    obtain ⟨spanned, rfl, rfl⟩ := node_of_tree_tables same
    replace found : entries.node? part.key.name = some (.tables spanned) := found
    obtain ⟨inner, filled, rfl⟩ := onto [] h
    refine ⟨entries.setNode part.key.name (.tables (spanned ++ [(part.reach, inner)])), ?_, ?_⟩
    · simp [Section.write, doubled, found, filled]
    · rw [entryItems_setNode found, Node.tree, elementItems_eq, List.map_append]
      rfl

theorem write_realizes : Realizes (fun _ outer => part.write outer) part.headed.Opens where
  sound := opens_of_write closed
  complete := write_of_opens closed

end Header

theorem along_of_place {part : Section}
    (closed : ∀ assignment ∈ part.assignments, Closed assignment.value) {root result : Entries}
    (h : part.place root = some result) :
    Along false part.headed.Opens part.headed.path .passage (entryItems root) (entryItems result) :=
  along_of_within (write_realizes closed) h

theorem place_of_along {part : Section}
    (closed : ∀ assignment ∈ part.assignments, Closed assignment.value) {root : Entries}
    {items : Items}
    (h : Along false part.headed.Opens part.headed.path (Origin.kind .passage) (entryItems root)
      items) :
    ∃ result, part.place root = some result ∧ entryItems result = items :=
  within_of_along (write_realizes closed) h

variable {leading : List Assignment} {sections : List Section}
  (closed : ∀ assignment ∈ leading, Closed assignment.value)
  (closed' : ∀ part ∈ sections, ∀ assignment ∈ part.assignments, Closed assignment.value)

include closed closed'

theorem assembles_of_assemble {entries : Entries} (h : assemble leading sections = some entries) :
    Assembles (leading.map Assignment.field) (sections.map Section.headed) (entryItems entries) := by
  obtain ⟨root, filled, h⟩ := Option.bind_eq_some_iff.mp h
  exact ⟨entryItems root, fills_of_fill closed filled, run_of_foldlM Section.headed entryItems
    (fun part member _ _ => along_of_place (closed' part member)) h⟩

theorem assemble_of_assembles {items : Items}
    (h : Assembles (leading.map Assignment.field) (sections.map Section.headed) items) :
    ∃ entries, assemble leading sections = some entries ∧ entryItems entries = items := by
  obtain ⟨_, fills, h⟩ := h
  obtain ⟨root, filled, rfl⟩ := fill_of_fills .passage [] closed fills
  obtain ⟨result, placed, rfl⟩ := foldlM_of_run Section.headed entryItems
    (fun part member _ _ => place_of_along (closed' part member)) h
  exact ⟨result, by rw [assemble, filled]; exact placed, rfl⟩

end Assembling

end UrlHandoff.Document

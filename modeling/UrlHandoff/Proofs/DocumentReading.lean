import UrlHandoff.Proofs.ValueReading

namespace UrlHandoff.Document

open Grammar

def Line.statements : Line → List Statement
  | .empty => []
  | .header doubled path key _ => [.header doubled (path.map Key.name) key.name]
  | .assignment item => [.field item.field]

section Headers

variable {s rest : List Char}

theorem headerText_of_header {doubled : Bool} {path : List Key} {key : Key}
    (h : header s = some ((doubled, path, key), rest)) :
    ∃ w, s = w ++ rest ∧
      HeaderText .reader w (.header doubled (path.map Key.name) key.name) := by
  unfold header at h
  split at h
  · split at h
    next read =>
      cases h
      obtain ⟨k, rfl, text, few⟩ := keyText_of_dottedKey read
      exact ⟨'[' :: '[' :: (k ++ [']', ']']), by simp, .doubled text (by rwa [List.length_map])⟩
    · cases h
  · split at h
    next read =>
      cases h
      obtain ⟨k, rfl, text, few⟩ := keyText_of_dottedKey read
      exact ⟨'[' :: (k ++ [']']), by simp, .single text (by rwa [List.length_map])⟩
    · cases h
  · cases h

theorem header_of_headerText {w : List Char} {statement : Statement}
    (h : HeaderText .reader w statement) (rest : List Char) :
    ∃ doubled path key, header (w ++ rest) = some ((doubled, path, key), rest) ∧
      statement = .header doubled (path.map Key.name) key.name := by
  have stops (s : List Char) : Ahead (fun c => ¬IsBlank c ∧ ¬IsBare c ∧ c ≠ '.') (']' :: s) :=
    ahead_cons.mpr (by decide)
  cases h with
  | @single k path name text few =>
    obtain ⟨keys, key, read, rfl, rfl⟩ := dottedKey_of_keyText text few (stops rest)
    have single : ∀ more, k ++ ']' :: rest ≠ '[' :: more := by
      intro more same
      have begins := text.begins (']' :: rest)
      rw [same] at begins
      exact absurd (ahead_cons.mp begins) (by decide)
    exact ⟨false, keys, key, by simp [header, read], rfl⟩
  | @doubled k path name text few =>
    obtain ⟨keys, key, read, rfl, rfl⟩ := dottedKey_of_keyText text few (stops (']' :: rest))
    exact ⟨true, keys, key, by simp [header, read], rfl⟩

end Headers

section Lines

variable {s rest : List Char}

theorem Grammar.TailText.after {b t : List Char} (blanks : Blanks b) (h : TailText t) :
    TailText (b ++ t) := by
  cases h with
  | blanks h => exact .blanks (List.forall_mem_append.mpr ⟨blanks, h⟩)
  | comment h comment =>
    rw [← List.append_assoc]
    exact .comment (List.forall_mem_append.mpr ⟨blanks, h⟩) comment

theorem lineText_of_line {found : Line} (h : line s = some (found, rest)) :
    (∀ item, found = .assignment item → Closed item.value) ∧
      ∃ w, s = w ++ rest ∧ ∀ t, TailText t → LineText .reader (w ++ t) found.statements := by
  obtain ⟨b, split, blanks⟩ := blanks_of_skipSpaces s
  unfold line at h
  split at h
  next stop =>
    cases h
    exact ⟨nofun, b, by rw [split, stop], fun t tail => .empty (tail.after blanks)⟩
  next c more start =>
    rw [start] at split
    split at h
    · cases h
      exact ⟨nofun, b, split, fun t tail => .empty (tail.after blanks)⟩
    · split at h
      next bracket =>
        obtain ⟨⟨doubled, path, key⟩, span, read, rfl⟩ := eq_of_withSpan h
        obtain ⟨w, written, header⟩ := headerText_of_header read
        refine ⟨nofun, b ++ w, by rw [split, written, List.append_assoc], fun t tail => ?_⟩
        rw [List.append_assoc]
        exact .header blanks header tail
      · obtain ⟨⟨item, after⟩, read, same⟩ := Option.map_eq_some_iff.mp h
        cases same
        obtain ⟨closed, w, written, field⟩ := fieldText_of_assignment (value_reads _) read
        refine ⟨fun other same => by cases same; exact closed, b ++ w,
          by rw [split, written, List.append_assoc], fun t tail => .field (field.after blanks) tail⟩

def LineEnds (s : List Char) : Prop := s = [] ∨ ∃ n more, Newline n ∧ s = n ++ more

theorem LineEnds.ahead (h : LineEnds s) : Ahead IsEnd s := by
  obtain rfl | ⟨n, more, newline, rfl⟩ := h
  · exact ahead_nil
  · exact ahead_newline newline more

theorem ends_tail {t : List Char} (h : TailText t) (ends : LineEnds s) : Ends (t ++ s) := by
  cases h with
  | blanks blanks =>
    apply ends_blanks blanks
    obtain rfl | ⟨n, more, newline, rfl⟩ := ends
    · exact ahead_nil
    · exact ends_newline newline more
  | comment blanks comment =>
    obtain ⟨-⟩ := comment
    rw [List.append_assoc]
    exact ends_blanks blanks (ends_cons (by decide) _)

theorem line_of_tail {t : List Char} (h : TailText t) (ends : LineEnds rest) :
    ∃ left, line (t ++ rest) = some (.empty, left ++ rest) ∧ TailText left := by
  have none : Blanks [] := List.forall_mem_nil _
  cases h with
  | blanks blanks =>
    refine ⟨[], ?_, .blanks none⟩
    have start : skipSpaces (t ++ rest) = rest := by
      rw [skipSpaces_blanks blanks, skipSpaces_of_ahead (ends.ahead.imp fun _ => IsEnd.not_isBlank)]
    rw [line, start]
    obtain rfl | ⟨n, more, newline, rfl⟩ := ends
    · rfl
    · cases newline <;> simp [newline?]
  | @comment b w blanks comment =>
    refine ⟨w, ?_, .comment none comment⟩
    obtain ⟨-⟩ := comment
    rw [line, List.append_assoc, skipSpaces_blanks blanks, List.cons_append,
      skipSpaces_of_ahead (ahead_cons.mpr (by decide))]
    simp

theorem Grammar.HeaderText.begins {w : List Char} {statement : Statement}
    (h : HeaderText .reader w statement) : ∃ more, w = '[' :: more := by
  cases h <;> exact ⟨_, rfl⟩

theorem line_of_bracket {more : List Char} (start : skipSpaces s = '[' :: more) :
    line s = withSpan header
      (fun (doubled, path, key) span => .header doubled path key span) ('[' :: more) := by
  rw [line, start]
  rfl

theorem line_of_key {c : Char} {more : List Char} (start : skipSpaces s = c :: more)
    (key : StartsKey c) :
    line s = (assignment (value (depthLimit - 1)) (c :: more)).map fun (item, rest) =>
      (.assignment item, rest) := by
  have others : ∀ d ∈ ['#', '\n', '\r', '['], c ≠ d := by
    have starts : ∀ d ∈ ['#', '\n', '\r', '['], ¬StartsKey d := List.all_iff_forall_prop.mp rfl
    rintro d member rfl
    exact starts c member key
  simp only [List.forall_mem_cons, List.not_mem_nil, false_imp_iff, implies_true, and_true] at others
  simp [line, start, newline?, others]

theorem line_of_lineText {w : List Char} {statements : List Statement}
    (h : LineText .reader w statements) (ends : LineEnds rest) :
    ∃ found t, line (w ++ rest) = some (found, t ++ rest) ∧ TailText t ∧
      found.statements = statements := by
  cases h with
  | empty tail =>
    obtain ⟨t, read, left⟩ := line_of_tail tail ends
    exact ⟨.empty, t, read, left, rfl⟩
  | @field w t field text tail =>
    obtain ⟨b, f, rfl, blanks, text, begins⟩ := text.stripped
    obtain ⟨item, read, rfl⟩ := assignment_of_fieldText (value_reads _) text (ends_tail tail ends)
    refine ⟨.assignment item, t, ?_, tail, rfl⟩
    have start : skipSpaces (b ++ f ++ t ++ rest) = f ++ (t ++ rest) := by
      rw [List.append_assoc, List.append_assoc, skipSpaces_blanks blanks]
      exact skipSpaces_of_ahead ((begins _).imp fun _ => not_isBlank_of_startsKey)
    cases f with
    | nil => exact absurd (ahead_cons.mp (begins [' '])) (by decide)
    | cons c f =>
      rw [line_of_key start (ahead_cons.mp (begins (t ++ rest)))]
      exact congrArg (Option.map _) read
  | @header b w t statement blanks header tail =>
    obtain ⟨doubled, path, key, read, rfl⟩ := header_of_headerText header (t ++ rest)
    obtain ⟨more, rfl⟩ := header.begins
    have start : skipSpaces (b ++ ('[' :: more ++ t) ++ rest) = '[' :: (more ++ (t ++ rest)) := by
      rw [List.append_assoc, skipSpaces_blanks blanks, List.cons_append, List.cons_append,
        List.append_assoc]
      exact skipSpaces_of_ahead (ahead_cons.mpr (by decide))
    have taken := withSpan_of_read read fun (doubled, path, key) span =>
      Line.header doubled path key span
    exact ⟨_, t, (line_of_bracket start).trans taken, tail, rfl⟩

theorem lines_nil : lines [] = some [] := by rw [lines, if_pos rfl]

theorem linesText_of_lines {found : List Line} (h : lines s = some found) :
    LinesText .reader s (found.flatMap Line.statements) ∧
      ∀ item, .assignment item ∈ found → Closed item.value := by
  fun_induction lines s generalizing found with
  | case1 =>
    cases h
    have closed (item) (member : Line.assignment item ∈ []) : Closed item.value :=
      absurd member List.not_mem_nil
    exact ⟨.last (.empty (.blanks (List.forall_mem_nil _))), closed⟩
  | case2 | case3 | case5 => cases h
  | case4 s _ first rest hfirst next ended shorter ih =>
    obtain ⟨more, hmore, rfl⟩ := Option.map_eq_some_iff.mp h
    obtain ⟨later, others⟩ := ih hmore
    obtain ⟨closed, w, rfl, written⟩ := lineText_of_line hfirst
    have each : ∀ item, .assignment item ∈ first :: more → Closed item.value := by
      intro item member
      rcases List.mem_cons.mp member with same | member
      · exact closed item same.symm
      · exact others item member
    refine ⟨?_, each⟩
    rw [List.flatMap_cons]
    obtain ⟨t, tail, ⟨rfl, rfl⟩ | ⟨n, newline, rfl⟩⟩ := tail_of_endLine? ended
    · rw [lines_nil] at hmore
      cases hmore
      rw [List.flatMap_nil, List.append_nil]
      exact .last (written _ tail)
    · rw [← List.append_assoc]
      exact .next (written t tail) newline later

theorem lines_of_line {found : Line} {left next : List Char} {more : List Line} (nonempty : s ≠ [])
    (read : line s = some (found, left)) (ended : endLine? left = some next)
    (shorter : next.length < s.length) (later : lines next = some more) :
    lines s = some (found :: more) := by
  rw [lines, if_neg nonempty, read]
  simp only [ended, if_pos shorter, later, Option.map_some]

theorem lines_of_linesText {statements : List Statement} (h : LinesText .reader s statements) :
    ∃ found, lines s = some found ∧ found.flatMap Line.statements = statements := by
  induction h with
  | @last w statements text =>
    obtain ⟨found, t, read, tail, rfl⟩ := line_of_lineText text (.inl rfl)
    rw [List.append_nil, List.append_nil] at read
    cases w with
    | nil =>
      -- Behind the last line break stands an empty line, of which the reader makes none.
      have blank : Line.empty = found := congrArg Prod.fst (Option.some.inj read)
      subst blank
      exact ⟨[], lines_nil, rfl⟩
    | cons c w =>
      refine ⟨[found], ?_, by simp⟩
      exact lines_of_line (List.cons_ne_nil c w) read (endLine?_tail tail) (Nat.succ_pos _) lines_nil
  | @next w n more statements later text newline _ ih =>
    obtain ⟨found, t, read, tail, rfl⟩ := line_of_lineText text (.inr ⟨n, more, newline, rfl⟩)
    obtain ⟨others, hmore, rfl⟩ := ih
    have ended := endLine?_newline tail newline more
    refine ⟨found :: others, ?_, List.flatMap_cons ..⟩
    have some : n ≠ [] := by cases newline <;> exact List.cons_ne_nil _ _
    have shorter : more.length < (w ++ (n ++ more)).length := by
      have positive := List.length_pos_iff.mpr some
      simp only [List.length_append]
      omega
    have nonempty : w ++ (n ++ more) ≠ [] := by simp [some]
    exact lines_of_line nonempty read ended shorter hmore

end Lines

section Separating

def separate : List Statement → List Field × List Headed
  | [] => ([], [])
  | .field field :: rest => (field :: (separate rest).1, (separate rest).2)
  | .header doubled path name :: rest =>
    ([], ⟨doubled, path, name, (separate rest).1⟩ :: (separate rest).2)

theorem statements_separate (statements : List Statement) :
    (separate statements).1.map .field ++ (separate statements).2.flatMap Headed.statements =
      statements := by
  induction statements with
  | nil => rfl
  | cons statement rest ih =>
    cases statement with
    | field field => exact congrArg (Statement.field field :: ·) ih
    | header doubled path name =>
      simpa [separate, Headed.statements] using ih

theorem separate_fields (fields : List Field) (rest : List Statement) :
    separate (fields.map .field ++ rest) = (fields ++ (separate rest).1, (separate rest).2) := by
  induction fields with
  | nil => rfl
  | cons field fields ih => rw [List.map_cons, List.cons_append, separate, ih]; rfl

theorem separate_statements (fields : List Field) (parts : List Headed) :
    separate (fields.map .field ++ parts.flatMap Headed.statements) = (fields, parts) := by
  induction parts generalizing fields with
  | nil => rw [separate_fields]; simp [separate]
  | cons part parts ih =>
    rw [separate_fields, List.flatMap_cons, Headed.statements, List.cons_append, separate, ih]
    simp

theorem separate_divide (found : List Line) :
    separate (found.flatMap Line.statements) =
      ((divide found).1.map Assignment.field, (divide found).2.map Section.headed) := by
  induction found with
  | nil => rfl
  | cons first rest ih =>
    cases first with
    | empty => exact ih
    | assignment item => simp [Line.statements, separate, divide, ih]
    | header doubled path key span => simp [Line.statements, separate, divide, ih, Section.headed]

end Separating

theorem withoutMark_split (text : List Char) :
    ∃ mark, text = mark ++ withoutMark text ∧ (mark = [] ∨ mark = ['\ufeff']) := by
  unfold withoutMark
  split
  · exact ⟨_, rfl, .inr rfl⟩
  · exact ⟨[], rfl, .inl rfl⟩

theorem lines_mark (s : List Char) : lines ('\ufeff' :: s) = none := by
  have start : skipSpaces ('\ufeff' :: s) = '\ufeff' :: s := rfl
  have noKey : keyName ('\ufeff' :: s) = none := rfl
  have noParts : keyParts (depthLimit - 1) ('\ufeff' :: s) = none := by
    change keyParts (78 + 1) _ = none
    rw [keyParts, start, withSpan, noKey]
    rfl
  have noField : assignment (value (depthLimit - 1)) ('\ufeff' :: s) = none := by
    rw [assignment, dottedKey, noParts]
    rfl
  have noLine : line ('\ufeff' :: s) = none := by
    rw [line, start]
    simp only [noField]
    rfl
  rw [lines, if_neg (List.cons_ne_nil _ _), noLine]

theorem says_of_parse {text : List Char} {entries : Entries} (h : parse text = some entries) :
    Says .reader text (content entries) := by
  obtain ⟨mark, split, marked⟩ := withoutMark_split text
  obtain ⟨found, hfound, h⟩ := Option.bind_eq_some_iff.mp h
  obtain ⟨written, closed⟩ := linesText_of_lines hfound
  obtain ⟨leading, sections⟩ := mem_of_mem_divide found
  have assembles := assembles_of_assemble (fun item member => closed item (leading item member))
    (fun part hpart item member => closed item (sections part hpart item member)) h
  rw [← statements_separate (found.flatMap Line.statements), separate_divide] at written
  rw [split, ← data_entryItems]
  exact .written marked written assembles

theorem parse_of_says {text : List Char} {document : String → Option Datum}
    (h : Says .reader text document) :
    ∃ entries, parse text = some entries ∧ content entries = document := by
  obtain ⟨marked, written, assembles⟩ := h
  rename_i mark text fields parts items
  obtain ⟨found, hfound, statements⟩ := lines_of_linesText written
  obtain ⟨-, closed⟩ := linesText_of_lines hfound
  obtain ⟨leading, sections⟩ := mem_of_mem_divide found
  have unmarked : withoutMark (mark ++ text) = text := by
    obtain rfl | rfl := marked
    · rw [List.nil_append]
      unfold withoutMark
      split
      -- A mark left in the text would begin a line.
      · rw [lines_mark] at hfound
        cases hfound
      · rfl
    · rfl
  have same := separate_divide found
  rw [statements, separate_statements] at same
  obtain ⟨rfl, rfl⟩ := Prod.mk.inj same
  obtain ⟨entries, assembled, rfl⟩ := assemble_of_assembles
    (fun item member => closed item (leading item member))
    (fun part hpart item member => closed item (sections part hpart item member)) assembles
  refine ⟨entries, ?_, (data_entryItems entries).symm⟩
  rw [parse, unmarked, hfound, Option.bind_some]
  exact assembled

/-- A text says the one document that its reading gives, or none. -/
theorem says_iff (text : List Char) (document : String → Option Datum) :
    Says .reader text document ↔ ∃ entries, parse text = some entries ∧ content entries = document := by
  constructor
  · exact parse_of_says
  · rintro ⟨entries, parsed, rfl⟩
    exact says_of_parse parsed

theorem says_iff_of_parse {text : List Char} {entries : Entries} (h : parse text = some entries)
    (document : String → Option Datum) : Says .reader text document ↔ document = content entries := by
  simp [says_iff, h, eq_comm]

theorem parse_eq_none_iff (text : List Char) :
    parse text = none ↔ ∀ document, ¬Says .reader text document := by
  simp only [says_iff, Option.eq_none_iff_forall_ne_some, not_exists, not_and]
  constructor
  · exact fun none document entries parsed => absurd parsed (none entries)
  · exact fun none entries parsed => none (content entries) entries parsed rfl

section Depth

variable {s : List Char}

theorem value_of_deeper (depth : Nat) (s : List Char) :
    value depth (List.replicate (depth + 1) '[' ++ s) = none := by
  induction depth with
  | zero =>
    have plain : isDigitIn 10 '[' = false := rfl
    change withSpan scalar Node.scalar ('[' :: s) = none
    rw [withSpan, scalar, string_of_ahead (ahead_cons.mpr (by decide)),
      boolean_of_ahead (ahead_cons.mpr (by decide)), moment_of_ahead (ahead_cons.mpr plain)]
    rfl
  | succ depth ih =>
    rw [List.replicate_succ, List.cons_append, value]
    have inner : ∃ more, List.replicate (depth + 1) '[' ++ s = '[' :: more := ⟨_, rfl⟩
    generalize List.replicate (depth + 1) '[' ++ s = nested at ih inner
    obtain ⟨more, rfl⟩ := inner
    have skipped : skipLines false ('[' :: more) = some ('[' :: more) :=
      skipLines_of_ahead (ahead_cons.mpr (by decide))
    have noItems : arrayItems (value depth) ('[' :: more) = none := by
      rw [arrayItems, skipped]
      simp [ih]
    rw [withSpan, array, noItems, Option.map_none]

theorem parse_of_deeper (s : List Char) :
    parse ('x' :: ' ' :: '=' :: ' ' :: (List.replicate depthLimit '[' ++ s)) = none := by
  have noValue : value (depthLimit - 1) (List.replicate depthLimit '[' ++ s) = none :=
    value_of_deeper (depthLimit - 1) s
  obtain ⟨more, bracket⟩ : ∃ more, List.replicate depthLimit '[' ++ s = '[' :: more := ⟨_, rfl⟩
  rw [bracket] at noValue ⊢
  obtain ⟨key, read⟩ : ∃ key, dottedKey ('x' :: ' ' :: '=' :: ' ' :: '[' :: more) =
      some (([], key), '=' :: ' ' :: '[' :: more) := ⟨_, rfl⟩
  have start : skipSpaces (' ' :: '[' :: more) = '[' :: more := rfl
  have noField :
      assignment (value (depthLimit - 1)) ('x' :: ' ' :: '=' :: ' ' :: '[' :: more) = none := by
    rw [assignment, read]
    simp [expect_self, start, noValue]
  have noLine : line ('x' :: ' ' :: '=' :: ' ' :: '[' :: more) = none := by
    rw [line_of_key rfl (by decide), noField, Option.map_none]
  have noLines : lines ('x' :: ' ' :: '=' :: ' ' :: '[' :: more) = none := by
    rw [lines, if_neg (List.cons_ne_nil _ _), noLine]
  exact congrArg (Option.bind · _) noLines

def brackets (depth : Nat) : List Char := List.replicate depth '[' ++ List.replicate depth ']'

theorem parse_brackets {depth : Nat} (deep : depthLimit ≤ depth) :
    parse ('x' :: ' ' :: '=' :: ' ' :: brackets depth) = none := by
  obtain ⟨more, rfl⟩ := Nat.exists_eq_add_of_le deep
  rw [brackets, List.replicate_add, List.append_assoc]
  exact parse_of_deeper _

def nested : Nat → Datum
  | 0 => .sequence []
  | depth + 1 => .sequence [nested depth]

theorem brackets_succ (depth : Nat) : brackets (depth + 1) = '[' :: (brackets depth ++ [']']) := by
  rw [brackets, brackets, List.replicate_succ, List.replicate_succ']
  simp

theorem valueText_brackets (limits : Limits) (depth : Nat) :
    ValueText limits (depth + 1) (brackets (depth + 1)) (nested depth) := by
  induction depth with
  | zero => exact .inr (.array (.none .none))
  | succ depth ih =>
    rw [brackets_succ]
    exact .inr (.array (.last .none ih .none))

theorem says_brackets (depth : Nat) :
    Says ⟨depth + 1, 1, false⟩ ('x' :: ' ' :: '=' :: ' ' :: brackets (depth + 1))
      (Items.data (Items.set .none "x" (.value (nested depth)))) := by
  have part : KeyPart ['x'] "x" := .bare (List.cons_ne_nil _ _) (List.all_iff_forall_prop.mp rfl)
  have key : KeyText ['x', ' '] ([] ++ ["x"]) :=
    .last (List.forall_mem_nil _) part (List.forall_mem_singleton.mpr (.inl rfl))
  have field : FieldText ⟨depth + 1, 1, false⟩ (ValueText ⟨depth + 1, 1, false⟩ (depth + 1))
      (['x', ' '] ++ '=' :: ([' '] ++ brackets (depth + 1))) ⟨[], "x", nested depth⟩ :=
    .written key Nat.zero_lt_one (List.forall_mem_singleton.mpr (.inl rfl)) (valueText_brackets _ _)
  have line := LineText.field field (.blanks (List.forall_mem_nil _))
  rw [List.append_nil] at line
  have lines : LinesText ⟨depth + 1, 1, false⟩ ('x' :: ' ' :: '=' :: ' ' :: brackets (depth + 1))
      ([(⟨[], "x", nested depth⟩ : Field)].map .field ++
        ([] : List Headed).flatMap Headed.statements) := .last line
  exact .written (.inl rfl) lines ⟨_, .next (.here (.added nofun rfl)) .none, .none⟩

end Depth

end UrlHandoff.Document

import UrlHandoff.Proofs.KeyReading
import UrlHandoff.Proofs.ScalarReading
import UrlHandoff.Proofs.TreeItems

namespace UrlHandoff.Document

open Grammar

def StartsValue (c : Char) : Prop := ¬IsBlank c ∧ ¬IsEnd c ∧ c ≠ '#' ∧ c ≠ ']'

structure Reads (read : Reader Node) (Value : List Char → Datum → Prop) : Prop where
  sound {s rest : List Char} {node : Node} (h : read s = some (node, rest)) :
    Closed node ∧ ∃ w, s = w ++ rest ∧ Value w node.datum
  complete {w rest : List Char} {datum : Datum} (h : Value w datum) (ends : Ends rest) :
    ∃ node, read (w ++ rest) = some (node, rest) ∧ node.datum = datum
  starts {w : List Char} {datum : Datum} (h : Value w datum) : Begins StartsValue w

section Ends

variable {s : List Char}

theorem ends_blanks {b : List Char} (blanks : Blanks b) (h : Ends s) : Ends (b ++ s) := by
  rw [Ends, skipSpaces_blanks blanks]
  exact h

theorem ends_cons {c : Char} (closer : c ∈ closers) (s : List Char) : Ends (c :: s) := by
  have noBlank : ∀ d ∈ closers, ¬IsBlank d := List.all_iff_forall_prop.mp rfl
  rw [Ends, skipSpaces_of_ahead (ahead_cons.mpr (noBlank c closer))]
  exact ahead_cons.mpr closer

theorem ends_newline {n : List Char} (h : Newline n) (s : List Char) : Ends (n ++ s) := by
  cases h <;> exact ends_cons (by decide) _

theorem ends_gap {g : List Char} (gap : Gap g) (h : Ends s) : Ends (g ++ s) := by
  induction gap with
  | none => exact h
  | @blank c g blank _ ih =>
    exact ends_blanks (b := [c]) (List.forall_mem_singleton.mpr blank) ih
  | newline newline =>
    rw [List.append_assoc]
    exact ends_newline newline _
  | comment comment =>
    obtain ⟨-⟩ := comment
    exact ends_cons (by decide) _

end Ends

section Arrays

variable {read : Reader Node} {Value : List Char → Datum → Prop} {s rest : List Char}

theorem arrayText_of_arrayItems (reads : Reads read Value) {items : List Node}
    (h : arrayItems read s = some (items, rest)) :
    ∃ w, s = w ++ rest ∧ ArrayText Value w (itemData items) := by
  fun_induction arrayItems read s generalizing items rest with
  | case1 | case3 | case6 | case7 => cases h
  | case2 s last skipped =>
    cases h
    obtain ⟨g, rfl, gap⟩ := gap_of_skipLines false skipped
    exact ⟨g ++ [']'], by simp, .none gap⟩
  | case4 s start noClose skipped item after taken last skipped' =>
    cases h
    obtain ⟨g, rfl, gap⟩ := gap_of_skipLines false skipped
    obtain ⟨-, w, rfl, text⟩ := reads.sound taken
    obtain ⟨g', rfl, gap'⟩ := gap_of_skipLines false skipped'
    exact ⟨g ++ (w ++ (g' ++ [']'])), by simp, .last gap text gap'⟩
  | case5 s start noClose skipped item after taken last skipped' shorter ih =>
    obtain ⟨⟨more, after⟩, later, same⟩ := Option.map_eq_some_iff.mp h
    cases same
    obtain ⟨g, rfl, gap⟩ := gap_of_skipLines false skipped
    obtain ⟨-, w, rfl, text⟩ := reads.sound taken
    obtain ⟨g', rfl, gap'⟩ := gap_of_skipLines false skipped'
    obtain ⟨u, rfl, others⟩ := ih later
    exact ⟨g ++ (w ++ (g' ++ ',' :: u)), by simp, .next gap text gap' others⟩

section Items

variable {start after left : List Char} {item : Node}

theorem arrayItems_last (skipped : skipLines false s = some start)
    (noClose : ∀ more, start ≠ ']' :: more) (taken : read start = some (item, after))
    (closes : skipLines false after = some (']' :: left)) :
    arrayItems read s = some ([item], left) := by
  rw [arrayItems]
  simp only [skipped, taken, closes]

theorem arrayItems_next {more : List Char} {items : List Node}
    (skipped : skipLines false s = some start) (noClose : ∀ more, start ≠ ']' :: more)
    (taken : read start = some (item, after)) (comma : skipLines false after = some (',' :: more))
    (shorter : more.length < s.length) (later : arrayItems read more = some (items, left)) :
    arrayItems read s = some (item :: items, left) := by
  rw [arrayItems]
  simp only [skipped, taken, comma, if_pos shorter, later, Option.map_some]

end Items

theorem skipLines_value (reads : Reads read Value) {g w : List Char} {datum : Datum} (gap : Gap g)
    (text : Value w datum) (rest : List Char) :
    skipLines false (g ++ (w ++ rest)) = some (w ++ rest) ∧ ∀ more, w ++ rest ≠ ']' :: more := by
  have ahead := reads.starts text rest
  rw [skipLines_gap gap, skipLines_of_ahead (ahead.imp fun _ h => ⟨h.1, h.2.1, h.2.2.1⟩)]
  refine ⟨rfl, fun more same => ?_⟩
  rw [same] at ahead
  exact (ahead_cons.mp ahead).2.2.2 rfl

theorem arrayItems_of_arrayText (reads : Reads read Value) {w : List Char} {data : List Datum}
    (h : ArrayText Value w data) (rest : List Char) :
    ∃ items, arrayItems read (w ++ rest) = some (items, rest) ∧ itemData items = data := by
  induction h with
  | none gap =>
    refine ⟨[], ?_, rfl⟩
    rw [arrayItems, List.append_assoc, skipLines_gap gap, List.cons_append,
      skipLines_of_ahead (ahead_cons.mpr (by decide))]
    rfl
  | @last g w g' datum gap text gap' =>
    have ends : Ends (g' ++ ']' :: rest) := ends_gap gap' (ends_cons (by decide) rest)
    obtain ⟨skipped, noClose⟩ := skipLines_value reads gap text (g' ++ ']' :: rest)
    obtain ⟨item, taken, rfl⟩ := reads.complete text ends
    refine ⟨[item], ?_, rfl⟩
    have shape : g ++ (w ++ (g' ++ [']'])) ++ rest = g ++ (w ++ (g' ++ ']' :: rest)) := by simp
    have closes : skipLines false (g' ++ ']' :: rest) = some (']' :: rest) := by
      rw [skipLines_gap gap', skipLines_of_ahead (ahead_cons.mpr (by decide))]
    rw [shape, arrayItems_last skipped noClose taken closes]
  | @next g w g' more datum data gap text gap' _ ih =>
    have ends : Ends (g' ++ ',' :: (more ++ rest)) := ends_gap gap' (ends_cons (by decide) _)
    obtain ⟨skipped, noClose⟩ := skipLines_value reads gap text (g' ++ ',' :: (more ++ rest))
    obtain ⟨item, taken, rfl⟩ := reads.complete text ends
    obtain ⟨items, later, rfl⟩ := ih
    refine ⟨item :: items, ?_, rfl⟩
    have shape : g ++ (w ++ (g' ++ ',' :: more)) ++ rest =
      g ++ (w ++ (g' ++ ',' :: (more ++ rest))) := by simp
    have shorter : (more ++ rest).length < (g ++ (w ++ (g' ++ ',' :: (more ++ rest)))).length := by
      simp only [List.length_append, List.length_cons]
      omega
    have comma : skipLines false (g' ++ ',' :: (more ++ rest)) = some (',' :: (more ++ rest)) := by
      rw [skipLines_gap gap', skipLines_of_ahead (ahead_cons.mpr (by decide))]
    rw [shape, arrayItems_next skipped noClose taken comma shorter later]

end Arrays

section Fields

variable {read : Reader Node} {Value : List Char → Datum → Prop} {s rest : List Char}

theorem fieldText_of_assignment (reads : Reads read Value) {item : Assignment}
    (h : assignment read s = some (item, rest)) :
    Closed item.value ∧ ∃ w, s = w ++ rest ∧ FieldText .reader Value w item.field := by
  obtain ⟨⟨⟨path, key⟩, afterKey⟩, keyRead, h⟩ := Option.bind_eq_some_iff.mp h
  obtain ⟨afterSign, equals, h⟩ := Option.bind_eq_some_iff.mp h
  obtain ⟨⟨node, last⟩, taken, same⟩ := Option.bind_eq_some_iff.mp h
  cases same
  obtain ⟨k, rfl, text, few⟩ := keyText_of_dottedKey keyRead
  cases (expect_eq_some_iff _ _ _).mp equals
  obtain ⟨b, split, blanks⟩ := blanks_of_skipSpaces afterSign
  obtain ⟨closed, w, written, value⟩ := reads.sound taken
  rw [written] at split
  refine ⟨closed, k ++ '=' :: (b ++ w), by simp [split], ?_⟩
  exact .written text (by rwa [List.length_map]) blanks value

theorem assignment_of_fieldText (reads : Reads read Value) {w : List Char} {field : Field}
    (h : FieldText .reader Value w field) (ends : Ends rest) :
    ∃ item, assignment read (w ++ rest) = some (item, rest) ∧ item.field = field := by
  obtain ⟨key, few, blanks, value⟩ := h
  rename_i k b w path name datum
  have equals : Ahead (fun c => ¬IsBlank c ∧ ¬IsBare c ∧ c ≠ '.') ('=' :: (b ++ (w ++ rest))) :=
    ahead_cons.mpr (by decide)
  obtain ⟨keys, last, keyRead, rfl, rfl⟩ := dottedKey_of_keyText key few equals
  have start : skipSpaces (b ++ (w ++ rest)) = w ++ rest := by
    rw [skipSpaces_blanks blanks]
    exact skipSpaces_of_ahead ((reads.starts value rest).imp fun _ => And.left)
  obtain ⟨node, taken, rfl⟩ := reads.complete value ends
  refine ⟨⟨keys, last, node⟩, ?_, rfl⟩
  simp [assignment, keyRead, expect_self, start, taken]

theorem braceText_of_braceItems (reads : Reads read Value) {items : List Assignment}
    (h : braceItems read s = some (items, rest)) :
    (∀ item ∈ items, Closed item.value) ∧
      ∃ w, s = w ++ rest ∧ BraceText (FieldText .reader Value) w (items.map Assignment.field) := by
  fun_induction braceItems read s generalizing items rest with
  | case1 | case4 | case5 => cases h
  | case2 s item after taken last closes =>
    cases h
    obtain ⟨closed, w, rfl, field⟩ := fieldText_of_assignment reads taken
    obtain ⟨b, split, blanks⟩ := blanks_of_skipSpaces after
    rw [closes] at split
    exact ⟨List.forall_mem_singleton.mpr closed, w ++ (b ++ ['\x7d']), by simp [split],
      .last field blanks⟩
  | case3 s item after taken last comma shorter ih =>
    obtain ⟨⟨more, behind⟩, later, same⟩ := Option.map_eq_some_iff.mp h
    cases same
    obtain ⟨closed, w, rfl, field⟩ := fieldText_of_assignment reads taken
    obtain ⟨b, split, blanks⟩ := blanks_of_skipSpaces after
    obtain ⟨others, u, rfl, fields⟩ := ih later
    rw [comma] at split
    exact ⟨List.forall_mem_cons.mpr ⟨closed, others⟩, w ++ (b ++ ',' :: u), by simp [split],
      .next field blanks fields⟩

theorem braceItems_of_braceText (reads : Reads read Value) {w : List Char} {fields : List Field}
    (h : BraceText (FieldText .reader Value) w fields) (rest : List Char) :
    ∃ items, braceItems read (w ++ rest) = some (items, rest) ∧
      items.map Assignment.field = fields := by
  induction h with
  | @last w b field text blanks =>
    have ends : Ends (b ++ '\x7d' :: rest) := ends_blanks blanks (ends_cons (by decide) rest)
    obtain ⟨item, taken, rfl⟩ := assignment_of_fieldText reads text ends
    have closes : skipSpaces (b ++ '\x7d' :: rest) = '\x7d' :: rest := by
      rw [skipSpaces_blanks blanks, skipSpaces_of_ahead (ahead_cons.mpr (by decide))]
    have shape : w ++ (b ++ ['\x7d']) ++ rest = w ++ (b ++ '\x7d' :: rest) := by simp
    refine ⟨[item], ?_, rfl⟩
    rw [shape, braceItems]
    simp only [taken, closes]
  | @next w b more field fields text blanks _ ih =>
    have ends : Ends (b ++ ',' :: (more ++ rest)) := ends_blanks blanks (ends_cons (by decide) _)
    obtain ⟨item, taken, rfl⟩ := assignment_of_fieldText reads text ends
    obtain ⟨items, later, rfl⟩ := ih
    have comma : skipSpaces (b ++ ',' :: (more ++ rest)) = ',' :: (more ++ rest) := by
      rw [skipSpaces_blanks blanks, skipSpaces_of_ahead (ahead_cons.mpr (by decide))]
    have shape : w ++ (b ++ ',' :: more) ++ rest = w ++ (b ++ ',' :: (more ++ rest)) := by simp
    have shorter : (more ++ rest).length < (w ++ (b ++ ',' :: (more ++ rest))).length := by
      simp only [List.length_append, List.length_cons]
      omega
    refine ⟨item :: items, ?_, rfl⟩
    rw [shape, braceItems]
    simp only [taken, comma, if_pos shorter, later, Option.map_some]

end Fields

section Braces

theorem Grammar.KeyText.after {b w : List Char} {names : List String} (blanks : Blanks b)
    (h : KeyText w names) : KeyText (b ++ w) names := by
  have both {b b' : List Char} (h : Blanks b) (h' : Blanks b') : Blanks (b ++ b') :=
    List.forall_mem_append.mpr ⟨h, h'⟩
  cases h with
  | last before part after =>
    rw [← List.append_assoc]
    exact .last (both blanks before) part after
  | point before part after rest =>
    rw [← List.append_assoc]
    exact .point (both blanks before) part after rest

theorem Grammar.KeyText.stripped {w : List Char} {names : List String} (h : KeyText w names) :
    ∃ b k, w = b ++ k ∧ Blanks b ∧ KeyText k names ∧ Begins StartsKey k := by
  have none : Blanks [] := List.forall_mem_nil _
  cases h with
  | last before part after =>
    exact ⟨_, _, rfl, before, .last none part after, part.begins.append _⟩
  | point before part after rest =>
    exact ⟨_, _, rfl, before, .point none part after rest, part.begins.append _⟩

theorem Grammar.KeyText.begins {w : List Char} {names : List String} (h : KeyText w names) :
    Begins (fun c => IsBlank c ∨ StartsKey c) w := by
  obtain ⟨b, k, rfl, blanks, -, begins⟩ := h.stripped
  intro rest
  rw [List.append_assoc]
  exact ahead_blanks blanks (fun _ => .inl) ((begins rest).imp fun _ => .inr)

variable {limits : Limits} {Value : List Char → Datum → Prop}

theorem Grammar.FieldText.after {b w : List Char} {field : Field} (blanks : Blanks b)
    (h : FieldText limits Value w field) : FieldText limits Value (b ++ w) field := by
  obtain ⟨key, few, between, value⟩ := h
  rw [← List.append_assoc]
  exact .written (key.after blanks) few between value

theorem Grammar.FieldText.stripped {w : List Char} {field : Field}
    (h : FieldText limits Value w field) :
    ∃ b f, w = b ++ f ∧ Blanks b ∧ FieldText limits Value f field ∧ Begins StartsKey f := by
  obtain ⟨key, few, between, value⟩ := h
  obtain ⟨b, k, rfl, blanks, key, begins⟩ := key.stripped
  exact ⟨b, _, List.append_assoc .., blanks, .written key few between value, begins.append _⟩

theorem Grammar.BraceText.after {b w : List Char} {fields : List Field} (blanks : Blanks b)
    (h : BraceText (FieldText limits Value) w fields) :
    BraceText (FieldText limits Value) (b ++ w) fields := by
  cases h with
  | last field closes =>
    rw [← List.append_assoc]
    exact .last (field.after blanks) closes
  | next field comma rest =>
    rw [← List.append_assoc]
    exact .next (field.after blanks) comma rest

theorem Grammar.BraceText.stripped {w : List Char} {fields : List Field}
    (h : BraceText (FieldText limits Value) w fields) :
    ∃ b f, w = b ++ f ∧ Blanks b ∧ BraceText (FieldText limits Value) f fields ∧
      Begins StartsKey f := by
  cases h with
  | last field closes =>
    obtain ⟨b, f, rfl, blanks, field, begins⟩ := field.stripped
    exact ⟨b, _, List.append_assoc .., blanks, .last field closes, begins.append _⟩
  | next field comma rest =>
    obtain ⟨b, f, rfl, blanks, field, begins⟩ := field.stripped
    exact ⟨b, _, List.append_assoc .., blanks, .next field comma rest, begins.append _⟩

end Braces

section Values

variable {read : Reader Node} {Value : List Char → Datum → Prop} {s rest : List Char}

def StartsScalar (c : Char) : Prop := StartsNumber c ∨ c ∈ ['"', '\'', 't', 'f']

instance : DecidablePred StartsScalar := fun _ => inferInstanceAs (Decidable (_ ∨ _))

theorem Grammar.ScalarText.begins {w : List Char} {value : Scalar}
    (h : ScalarText .reader w value) : Begins StartsScalar w := by
  cases h with
  | text text =>
    cases text with
    | basic quotes =>
      obtain ⟨pieces, -, rfl⟩ := quotes
      exact begins_cons (.inr (by decide)) _
    | literal literal =>
      obtain ⟨-⟩ := literal
      exact begins_cons (.inr (by decide)) _
    | long => exact begins_cons (.inr (by decide)) _
    | longLiteral => exact begins_cons (.inr (by decide)) _
  | true => exact begins_cons (.inr (by decide)) _
  | false => exact begins_cons (.inr (by decide)) _
  | moment text => exact text.begins.imp fun _ => .inl
  | float text => exact text.begins.imp fun _ => .inl
  | integer text => exact text.begins.imp fun _ => .inl

theorem startsValue_of_startsScalar {c : Char} (h : StartsScalar c) :
    StartsValue c ∧ c ≠ '[' ∧ c ≠ '\x7b' := by
  have others : ∀ d ∈ [' ', '\t', '\n', '\r', '#', ']', '[', '\x7b'], c ≠ d := by
    have starts : ∀ d ∈ [' ', '\t', '\n', '\r', '#', ']', '[', '\x7b'], ¬StartsScalar d :=
      List.all_iff_forall_prop.mp rfl
    rintro d member rfl
    exact starts c member h
  simpa [StartsValue, IsBlank, IsEnd, and_assoc] using others

theorem scalar_reads : Reads (withSpan scalar .scalar) (ValueText .reader 0) where
  sound := by
    intro s rest node h
    obtain ⟨value, span, read, rfl⟩ := eq_of_withSpan h
    obtain ⟨w, rfl, text⟩ := scalarText_of_scalar read
    exact ⟨rfl, w, rfl, value, text, rfl⟩
  complete := by
    rintro w rest datum ⟨value, text, rfl⟩ ends
    exact ⟨_, withSpan_of_read (scalar_of_scalarText text ends) Node.scalar, rfl⟩
  starts := by
    rintro w datum ⟨value, text, -⟩
    exact text.begins.imp fun _ h => (startsValue_of_startsScalar h).1

theorem braced_sound (reads : Reads read Value) {entries : Entries}
    (h : braced read s = some (entries, rest)) :
    ∃ w, s = w ++ rest ∧ NestText .reader Value w (.table (content entries)) := by
  unfold braced at h
  split at h
  next s =>
    obtain ⟨b, split, blanks⟩ := blanks_of_skipSpaces s
    split at h
    next closes =>
      cases h
      rw [closes] at split
      exact ⟨'\x7b' :: (b ++ ['\x7d']), by simp [split], .empty blanks⟩
    · obtain ⟨⟨items, after⟩, taken, h⟩ := Option.bind_eq_some_iff.mp h
      obtain ⟨filled, hfilled, same⟩ := Option.map_eq_some_iff.mp h
      cases same
      obtain ⟨closed, w, start, fields⟩ := braceText_of_braceItems reads taken
      rw [start] at split
      have fills := fills_of_fill closed hfilled
      rw [← data_entryItems]
      exact ⟨'\x7b' :: (b ++ w), by simp [split], .braces (fields.after blanks) fills⟩
  · cases h

theorem braced_complete (reads : Reads read Value) {w : List Char} {fields : List Field}
    {items : Items} (h : BraceText (FieldText .reader Value) w fields)
    (filled : Fills .passage fields .none items) (rest : List Char) :
    ∃ entries, braced read ('\x7b' :: (w ++ rest)) = some (entries, rest) ∧
      content entries = items.data := by
  -- Blanks before the first key are the key's in the grammar, and skipped before the reader comes
  -- to it.
  obtain ⟨b, f, rfl, blanks, text, begins⟩ := h.stripped
  have start : skipSpaces (b ++ f ++ rest) = f ++ rest := by
    rw [List.append_assoc, skipSpaces_blanks blanks]
    exact skipSpaces_of_ahead ((begins rest).imp fun _ => not_isBlank_of_startsKey)
  obtain ⟨assignments, taken, rfl⟩ := braceItems_of_braceText reads text rest
  obtain ⟨closed, -⟩ := braceText_of_braceItems reads taken
  obtain ⟨entries, hfilled, rfl⟩ := fill_of_fills .passage [] closed filled
  refine ⟨entries, ?_, (data_entryItems entries).symm⟩
  rw [braced, start]
  split
  next same =>
    have first := begins rest
    rw [same] at first
    exact absurd (ahead_cons.mp first) (by decide)
  · rw [taken, Option.bind_some]
    simp only [hfilled, Option.map_some]

theorem value_of_ahead {depth : Nat} (h : Ahead (fun c => c ≠ '[' ∧ c ≠ '\x7b') s) :
    value (depth + 1) s = withSpan scalar .scalar s := by
  cases s with
  | nil => rfl
  | cons c s => simp [value, ahead_cons.mp h]

theorem value_reads (depth : Nat) : Reads (value depth) (ValueText .reader depth) := by
  -- On the depth, as what stands between brackets or braces is read one level less deep.
  induction depth with
  | zero => exact scalar_reads
  | succ depth ih =>
    constructor
    · intro s rest node h
      unfold value at h
      split at h
      · obtain ⟨items, span, taken, rfl⟩ := eq_of_withSpan h
        obtain ⟨w, rfl, text⟩ := arrayText_of_arrayItems ih taken
        exact ⟨rfl, '[' :: w, rfl, .inr (.array text)⟩
      · obtain ⟨entries, span, taken, rfl⟩ := eq_of_withSpan h
        obtain ⟨w, split, text⟩ := braced_sound ih taken
        exact ⟨rfl, w, split, .inr text⟩
      · obtain ⟨closed, w, split, text⟩ := scalar_reads.sound h
        exact ⟨closed, w, split, .inl text⟩
    · intro w rest datum h ends
      rcases h with text | text
      · obtain ⟨value, hvalue, rfl⟩ := text
        have begins := hvalue.begins.imp fun _ h => (startsValue_of_startsScalar h).2
        rw [value_of_ahead (begins rest)]
        exact scalar_reads.complete ⟨value, hvalue, rfl⟩ ends
      · cases text with
        | array text =>
          obtain ⟨items, taken, rfl⟩ := arrayItems_of_arrayText ih text rest
          have taken : array (value depth) ('[' :: (_ ++ rest)) = some (items, rest) := taken
          exact ⟨_, withSpan_of_read taken Node.array, rfl⟩
        | @empty b blanks =>
          have start : skipSpaces (b ++ ['\x7d'] ++ rest) = '\x7d' :: rest := by
            rw [List.append_assoc, skipSpaces_blanks blanks]
            exact skipSpaces_of_ahead (ahead_cons.mpr (by decide))
          have taken : braced (value depth) ('\x7b' :: (b ++ ['\x7d'] ++ rest)) = some ([], rest) := by
            rw [braced, start]
            rfl
          exact ⟨_, withSpan_of_read taken fun entries span => Node.table (.braces span) entries, rfl⟩
        | braces text filled =>
          obtain ⟨entries, taken, said⟩ := braced_complete ih text filled rest
          refine ⟨_, withSpan_of_read taken fun entries span => Node.table (.braces span) entries, ?_⟩
          exact congrArg Datum.table said
    · intro w datum h
      rcases h with ⟨value, text, -⟩ | text
      · exact text.begins.imp fun _ h => (startsValue_of_startsScalar h).1
      · cases text <;> exact begins_cons (by unfold StartsValue; decide) _

end Values

end UrlHandoff.Document

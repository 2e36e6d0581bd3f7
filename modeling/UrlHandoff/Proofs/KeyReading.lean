import UrlHandoff.Proofs.StringReading

namespace UrlHandoff.Document

open Grammar

theorem withSpan_of_read {α β : Type} {read : Reader α} {s rest : List Char} {value : α}
    (h : read s = some (value, rest)) (make : α → Span → β) :
    withSpan read make s = some (make value (.between s rest), rest) := by
  rw [withSpan, h, Option.map_some]

section Keys

variable {s rest : List Char}

theorem isBareKeyChar_iff (c : Char) : isBareKeyChar c = true ↔ IsBare c := by
  change (decide ('A' ≤ c ∧ c ≤ 'Z') || decide ('a' ≤ c) && decide (c ≤ 'z') ||
    decide ('0' ≤ c) && decide (c ≤ '9') || c == '_' || c == '-') = true ↔ IsBare c
  simp only [Bool.or_eq_true, Bool.and_eq_true, decide_eq_true_eq, beq_iff_eq, or_assoc]
  rfl

theorem keyPart_of_keyName {name : String} (h : keyName s = some (name, rest)) :
    ∃ w, s = w ++ rest ∧ KeyPart w name := by
  unfold keyName at h
  split at h
  next read =>
    cases h
    obtain ⟨w, rfl, quotes | literal⟩ := text_of_singleLineString read
    · exact ⟨w, rfl, .quoted quotes⟩
    · exact ⟨w, rfl, .literal literal⟩
  · split at h
    · cases h
    next nonempty =>
      cases h
      refine ⟨_, List.takeWhile_append_dropWhile.symm, .bare nonempty fun c member => ?_⟩
      exact (isBareKeyChar_iff c).mp (List.mem_takeWhile_imp member)

theorem keyName_of_keyPart {w : List Char} {name : String} (h : KeyPart w name)
    (follows : Ahead (¬IsBare ·) rest) : keyName (w ++ rest) = some (name, rest) := by
  cases h with
  | bare nonempty each =>
    cases w with
    | nil => exact absurd rfl nonempty
    | cons c name =>
      have first := each c List.mem_cons_self
      have noQuote : c ≠ '"' := by
        rintro rfl
        exact absurd first (by decide)
      have noSingle : c ≠ '\'' := by
        rintro rfl
        exact absurd first (by decide)
      have bare : ∀ d ∈ c :: name, isBareKeyChar d = true := fun d member =>
        (isBareKeyChar_iff d).mpr (each d member)
      have stops : Ahead (fun d => isBareKeyChar d = false) rest := follows.imp fun d other => by
        rwa [← Bool.not_eq_true, isBareKeyChar_iff]
      have noString : singleLineString (c :: name ++ rest) = none := by
        simp [singleLineString, noQuote, noSingle]
      have taken : (c :: name ++ rest).takeWhile isBareKeyChar = c :: name := by
        rw [List.takeWhile_append_of_pos bare, takeWhile_of_ahead stops, List.append_nil]
      simp only [keyName, noString, taken, List.dropWhile_append_of_pos bare,
        dropWhile_of_ahead stops]
  | quoted quotes => exact keyName_of_quotes quotes rest
  | literal literal => rw [keyName, singleLineString_of_literal literal]

theorem keyText_of_keyParts {count : Nat} {keys : List Key}
    (h : keyParts count s = some (keys, rest)) :
    ∃ w, s = w ++ rest ∧ KeyText w (keys.map Key.name) ∧ keys.length ≤ count := by
  induction count generalizing s keys with
  | zero => cases h
  | succ count ih =>
    obtain ⟨⟨key, after⟩, first, h⟩ := Option.bind_eq_some_iff.mp h
    obtain ⟨name, span, read, rfl⟩ := eq_of_withSpan first
    obtain ⟨b, split, before⟩ := blanks_of_skipSpaces s
    obtain ⟨w, part, written⟩ := keyPart_of_keyName read
    obtain ⟨a, behind, blanks⟩ := blanks_of_skipSpaces after
    rw [part] at split
    dsimp only at h
    split at h
    next point =>
      obtain ⟨⟨more, last⟩, later, same⟩ := Option.map_eq_some_iff.mp h
      cases same
      obtain ⟨u, rfl, names, few⟩ := ih later
      rw [point] at behind
      refine ⟨b ++ (w ++ (a ++ '.' :: u)), ?_, .point before written blanks names, ?_⟩
      · simp [split, behind]
      · exact Nat.succ_le_succ few
    · cases h
      refine ⟨b ++ (w ++ a), ?_, .last before written blanks, Nat.succ_le_succ (Nat.zero_le _)⟩
      rw [behind] at split
      simpa using split

def StartsKey (c : Char) : Prop := IsBare c ∨ c = '"' ∨ c = '\''

instance : DecidablePred StartsKey := fun _ => inferInstanceAs (Decidable (_ ∨ _))

theorem Grammar.KeyPart.begins {w : List Char} {name : String} (h : KeyPart w name) :
    Begins StartsKey w := by
  cases h with
  | bare nonempty each =>
    cases w with
    | nil => exact absurd rfl nonempty
    | cons c more => exact begins_cons (.inl (each c List.mem_cons_self)) more
  | quoted quotes =>
    obtain ⟨pieces, -, rfl⟩ := quotes
    exact begins_cons (.inr (.inl rfl)) _
  | literal literal =>
    obtain ⟨each⟩ := literal
    exact begins_cons (.inr (.inr rfl)) _

theorem not_isBlank_of_startsKey {c : Char} (h : StartsKey c) : ¬IsBlank c := by
  rintro (rfl | rfl) <;> revert h <;> decide

theorem key_of_keyPart {b w : List Char} {name : String} (before : Blanks b) (part : KeyPart w name)
    (stops : Ahead (¬IsBare ·) rest) :
    ∃ key : Key, key.name = name ∧
      withSpan keyName Key.mk (skipSpaces (b ++ (w ++ rest))) = some (key, rest) := by
  have start : skipSpaces (b ++ (w ++ rest)) = w ++ rest := by
    rw [skipSpaces_blanks before]
    exact skipSpaces_of_ahead ((part.begins rest).imp fun _ => not_isBlank_of_startsKey)
  rw [start]
  exact ⟨_, rfl, withSpan_of_read (keyName_of_keyPart part stops) Key.mk⟩

theorem ahead_after {a : List Char} (blanks : Blanks a) (follows : Ahead (¬IsBare ·) rest) :
    Ahead (¬IsBare ·) (a ++ rest) :=
  ahead_blanks blanks (by rintro c (rfl | rfl) <;> decide) follows

theorem keyParts_of_keyText {w : List Char} {names : List String} (h : KeyText w names)
    {count : Nat} (few : names.length ≤ count)
    (follows : Ahead (fun c => ¬IsBlank c ∧ ¬IsBare c ∧ c ≠ '.') rest) :
    ∃ keys, keyParts count (w ++ rest) = some (keys, rest) ∧ keys.map Key.name = names := by
  induction h generalizing count with
  | @last b w a name before part after =>
    obtain ⟨count, rfl⟩ := Nat.exists_eq_succ_of_ne_zero (Nat.ne_zero_of_lt few)
    have stops := ahead_after after (follows.imp fun _ h => h.2.1)
    obtain ⟨key, rfl, read⟩ := key_of_keyPart before part stops
    have ends : skipSpaces (a ++ rest) = rest := by
      rw [skipSpaces_blanks after, skipSpaces_of_ahead (follows.imp fun _ => And.left)]
    refine ⟨[key], ?_, rfl⟩
    rw [List.append_assoc, List.append_assoc, keyParts, read, Option.bind_some]
    simp only [ends]
    cases rest with
    | nil => rfl
    | cons c rest => simp [(ahead_cons.mp follows).2.2]
  | @point b w a more name names before part after _ ih =>
    obtain ⟨count, rfl⟩ := Nat.exists_eq_succ_of_ne_zero (Nat.ne_zero_of_lt few)
    have stops : Ahead (¬IsBare ·) (a ++ '.' :: (more ++ rest)) :=
      ahead_after after (ahead_cons.mpr (by decide))
    obtain ⟨key, rfl, read⟩ := key_of_keyPart before part stops
    have ends : skipSpaces (a ++ '.' :: (more ++ rest)) = '.' :: (more ++ rest) := by
      rw [skipSpaces_blanks after, skipSpaces_of_ahead (ahead_cons.mpr (by decide))]
    obtain ⟨keys, later, rfl⟩ := ih (Nat.le_of_succ_le_succ few)
    refine ⟨key :: keys, ?_, rfl⟩
    rw [List.append_assoc, List.append_assoc, List.append_assoc, List.cons_append, keyParts, read,
      Option.bind_some]
    simp only [ends, later, Option.map_some]

theorem keyText_of_dottedKey {path : List Key} {key : Key}
    (h : dottedKey s = some ((path, key), rest)) :
    ∃ w, s = w ++ rest ∧ KeyText w (path.map Key.name ++ [key.name]) ∧
      path.length < Limits.reader.parts := by
  obtain ⟨⟨keys, after⟩, read, h⟩ := Option.bind_eq_some_iff.mp h
  obtain ⟨last, final, same⟩ := Option.map_eq_some_iff.mp h
  cases same
  obtain ⟨w, split, names, few⟩ := keyText_of_keyParts read
  have whole := List.dropLast_append_getLast? key final
  rw [← whole, List.map_append, List.map_singleton] at names
  rw [← whole, List.length_append, List.length_singleton] at few
  exact ⟨w, split, names, few⟩

theorem dottedKey_of_keyText {w : List Char} {path : List String} {name : String}
    (h : KeyText w (path ++ [name])) (few : path.length < Limits.reader.parts)
    (follows : Ahead (fun c => ¬IsBlank c ∧ ¬IsBare c ∧ c ≠ '.') rest) :
    ∃ keys key, dottedKey (w ++ rest) = some ((keys, key), rest) ∧ keys.map Key.name = path ∧
      key.name = name := by
  have count : (path ++ [name]).length ≤ depthLimit - 1 := by
    rw [List.length_append]
    exact few
  obtain ⟨keys, read, names⟩ := keyParts_of_keyText h count follows
  obtain ⟨front, last, rfl, hpath, hname⟩ := List.map_eq_append_iff.mp names
  obtain ⟨key, rfl, hkey⟩ := List.map_eq_singleton_iff.mp hname
  exact ⟨front, key, by simp [dottedKey, read], hpath, hkey⟩

end Keys

end UrlHandoff.Document

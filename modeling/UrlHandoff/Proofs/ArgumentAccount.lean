import UrlHandoff.Proofs.ArgumentReading

namespace UrlHandoff.CommandLine

def front (words : List String) : List String := words.takeWhile fun word => decide (word ≠ "--")

def behind (words : List String) : List String :=
  (words.dropWhile fun word => decide (word ≠ "--")).drop 1

theorem front_append {words : List String} (h : ∀ word ∈ words, word ≠ "--")
    (more : List String) : front (words ++ more) = words ++ front more := by
  apply List.takeWhile_append_of_pos
  intro word hword
  exact decide_eq_true (h word hword)

theorem behind_append {words : List String} (h : ∀ word ∈ words, word ≠ "--")
    (more : List String) : behind (words ++ more) = behind more := by
  rw [behind, List.dropWhile_append_of_pos]
  · rfl
  · intro word hword
    exact decide_eq_true (h word hword)

theorem Reads.plain_append {start last : Arguments} {plain words : List String}
    (h : ∀ word ∈ plain, IsPlain word)
    (more : Reads { start with rest := start.rest ++ plain } words last) :
    Reads start (plain ++ words) last := by
  induction plain generalizing start with
  | nil => simpa using more
  | cons word plain ih =>
    obtain ⟨hword, hplain⟩ := List.forall_mem_cons.mp h
    refine .plain hword (ih hplain ?_)
    simpa using more

theorem Reads.spelled_among {before after ending rest : List String} {url : String}
    {spelled : List String} (plain : ∀ word ∈ before ++ after, IsPlain word)
    (spelling : Spelling url spelled)
    (ends : ∀ arguments : Arguments,
      Reads arguments ending { arguments with rest := arguments.rest ++ rest }) :
    Reads {} (before ++ spelled ++ after ++ ending) ⟨some url, before ++ after ++ rest⟩ := by
  obtain ⟨hbefore, hafter⟩ := List.forall_mem_append.mp plain
  rw [List.append_assoc, List.append_assoc]
  apply Reads.plain_append hbefore
  apply Reads.option rfl spelling
  apply Reads.plain_append hafter
  exact ends _

theorem Reads.plain_only {plain ending rest : List String} (h : ∀ word ∈ plain, IsPlain word)
    (ends : ∀ arguments : Arguments,
      Reads arguments ending { arguments with rest := arguments.rest ++ rest }) :
    Reads {} (plain ++ ending) ⟨none, plain ++ rest⟩ :=
  Reads.plain_append h (ends _)

theorem Reads.layout {start last : Arguments} {words : List String} (h : Reads start words last) :
    ∃ before option after, front words = before ++ option ++ after ∧
      (∀ word ∈ before ++ after, IsPlain word) ∧
        (last.url = start.url ∧ option = [] ∨
          start.url = none ∧ ∃ url, last.url = some url ∧ Spelling url option) ∧
            last.rest = start.rest ++ (before ++ after) ++ behind words := by
  induction h with
  | done arguments =>
    refine ⟨[], [], [], rfl, nofun, .inl ⟨rfl, rfl⟩, ?_⟩
    simp [behind]
  | escaped arguments rest =>
    refine ⟨[], [], [], rfl, nofun, .inl ⟨rfl, rfl⟩, ?_⟩
    simp [behind]
  | @plain start last word words plain more ih =>
    obtain ⟨before, option, after, hfront, hplain, given, hrest⟩ := ih
    have word_ne : ∀ other ∈ [word], other ≠ "--" := by
      intro other hother
      rw [List.mem_singleton.mp hother]
      exact fun same => Scan.not_isPlain_escape (same ▸ plain)
    have hbehind : behind (word :: words) = behind words := behind_append word_ne words
    refine ⟨word :: before, option, after, ?_, ?_, given, ?_⟩
    · change front ([word] ++ words) = _
      rw [front_append word_ne, hfront]
      rfl
    · exact List.forall_mem_cons.mpr ⟨plain, hplain⟩
    · rw [hrest, hbehind]
      simp
  | @option start last url spelled words first spelling more ih =>
    obtain ⟨before, option, after, hfront, hplain, given, hrest⟩ := ih
    have spelled_ne := Scan.ne_escape_of_spelling spelling
    obtain ⟨hurl, rfl⟩ : last.url = some url ∧ option = [] := by
      rcases given with given | ⟨unset, _⟩
      · exact given
      · cases unset
    refine ⟨[], spelled, before ++ after, ?_, hplain, .inr ⟨first, url, hurl, spelling⟩, ?_⟩
    · rw [front_append spelled_ne, hfront]
      simp
    · rw [hrest, behind_append spelled_ne]
      rfl

theorem parse_spelled_among (program : Octets) {before after : List String} {url : String}
    {spelled : List String} (plain : ∀ word ∈ before ++ after, IsPlain word)
    (spelling : Spelling url spelled) :
    let read (words : List String) := parse ((program :: words.map Octets.ofText).drop 1)
    read (before ++ spelled ++ after) = .ok ⟨some url, before ++ after⟩ ∧
      read (before ++ after) = .ok ⟨none, before ++ after⟩ ∧
        ∀ rest,
          read (before ++ spelled ++ after ++ "--" :: rest) =
              .ok ⟨some url, before ++ after ++ rest⟩ ∧
            read (before ++ after ++ "--" :: rest) = .ok ⟨none, before ++ after ++ rest⟩ := by
  intro read
  have reads {words : List String} {arguments : Arguments} (h : Reads {} words arguments) :
      read words = .ok arguments :=
    (parse_eq_ok_iff_reads _ _).mpr ⟨words, rfl, h⟩
  have stops (arguments : Arguments) :
      Reads arguments [] { arguments with rest := arguments.rest ++ [] } := by
    rw [List.append_nil]
    exact .done arguments
  refine ⟨?_, ?_, fun rest => ⟨?_, ?_⟩⟩
  · simpa only [List.append_nil] using reads (Reads.spelled_among plain spelling stops)
  · simpa only [List.append_nil] using reads (Reads.plain_only plain stops)
  · exact reads (Reads.spelled_among plain spelling fun arguments => .escaped arguments rest)
  · exact reads (Reads.plain_only plain fun arguments => .escaped arguments rest)

theorem parse_spelled_among_dashes :
    (∀ word ∈ ["", "a"] ++ ["-"], IsPlain word) ∧ Spelling "-" ["-u", "-"] ∧
      parse ((["", "a", "-u", "-", "-", "--", "--url=x", "--"]).map Octets.ofText) =
        .ok ⟨some "-", ["", "a", "-", "--url=x", "--"]⟩ := by
  have plain : ∀ word ∈ ["", "a"] ++ ["-"], IsPlain word := by
    simp [IsPlain]
  have spelling : Spelling "-" ["-u", "-"] := .shortApart (.inl rfl)
  exact ⟨plain, spelling,
    ((parse_spelled_among [] plain spelling).2.2 ["--url=x", "--"]).1⟩

theorem parse_behind_unreadable_name :
    ¬∀ (argv : List Octets) (arguments : Arguments), parse (argv.drop 1) = .ok arguments →
      ∀ octets ∈ argv, ∃ text, octets = Octets.ofText text := by
  intro h
  have parsed : parse ([[0x61, 0xFF], Octets.ofText "x"].drop 1) = .ok ⟨none, ["x"]⟩ := rfl
  obtain ⟨text, same⟩ := h _ _ parsed [0x61, 0xFF] List.mem_cons_self
  have broken : Octets.text? [0x61, 0xFF] = none := by decide +kernel
  rw [same, Octets.text?_ofText] at broken
  cases broken

theorem accounts_of_parse {argv : List Octets} {arguments : Arguments}
    (h : parse (argv.drop 1) = .ok arguments) :
    ∃ words, argv.drop 1 = words.map Octets.ofText ∧
      ∃ before option after, front words = before ++ option ++ after ∧
        (∀ word ∈ before ++ after, IsPlain word) ∧
          (arguments.url = none ∧ option = [] ∨
            ∃ url, arguments.url = some url ∧ Spelling url option) ∧
              arguments.rest = before ++ after ++ behind words := by
  obtain ⟨words, hwords, reads⟩ := (parse_eq_ok_iff_reads _ _).mp h
  obtain ⟨before, option, after, hfront, hplain, given, hrest⟩ := reads.layout
  refine ⟨words, hwords, before, option, after, hfront, hplain, ?_, hrest⟩
  exact given.imp_right And.right

theorem accounts_of_parse_with_escape :
    let argv : List Octets := [[0xFF], .ofText "a", .ofText "-u=-", .ofText "--", .ofText "-u"]
    parse (argv.drop 1) = .ok ⟨some "-", ["a", "-u"]⟩ ∧
      ∃ words, argv.drop 1 = words.map Octets.ofText ∧
        ∃ before option after, front words = before ++ option ++ after ∧
          (∀ word ∈ before ++ after, IsPlain word) ∧ Spelling "-" option ∧
            ["a", "-u"] = before ++ after ++ behind words := by
  intro argv
  have parsed : parse (argv.drop 1) = .ok ⟨some "-", ["a", "-u"]⟩ := rfl
  obtain ⟨words, hwords, before, option, after, hfront, hplain, given, hrest⟩ :=
    accounts_of_parse parsed
  refine ⟨parsed, words, hwords, before, option, after, hfront, hplain, ?_, hrest⟩
  rcases given with ⟨unset, _⟩ | ⟨url, same, spelling⟩
  · cases unset
  · cases same
    exact spelling

end UrlHandoff.CommandLine

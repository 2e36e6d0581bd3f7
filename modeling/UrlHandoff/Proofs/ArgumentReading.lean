import Mathlib.Data.List.TakeWhile
import UrlHandoff.CommandLine.Arguments

namespace UrlHandoff.CommandLine

def IsPlain (word : String) : Prop := word = "-" ∨ word.toList.head? ≠ some '-'

inductive Spelling (url : String) : List String → Prop
  | longAttached : Spelling url ["--url=" ++ url]
  | shortEquals : Spelling url ["-u=" ++ url]
  | shortAttached (filled : url ≠ "") (bare : url.toList.head? ≠ some '=') :
      Spelling url ["-u" ++ url]
  | longApart (plain : IsPlain url) : Spelling url ["--url", url]
  | shortApart (plain : IsPlain url) : Spelling url ["-u", url]

inductive Reads : Arguments → List String → Arguments → Prop
  | done (arguments : Arguments) : Reads arguments [] arguments
  | escaped (arguments : Arguments) (rest : List String) :
      Reads arguments ("--" :: rest) { arguments with rest := arguments.rest ++ rest }
  | plain {arguments last : Arguments} {word : String} {words : List String}
      (plain : IsPlain word)
      (more : Reads { arguments with rest := arguments.rest ++ [word] } words last) :
      Reads arguments (word :: words) last
  | option {arguments last : Arguments} {url : String} {spelled words : List String}
      (first : arguments.url = none) (spelling : Spelling url spelled)
      (more : Reads { arguments with url := some url } words last) :
      Reads arguments (spelled ++ words) last

namespace Scan

theorem mapM_text?_eq_some_iff (octets : List Octets) (texts : List String) :
    octets.mapM Octets.text? = some texts ↔ octets = texts.map Octets.ofText := by
  induction octets generalizing texts with
  | nil => cases texts <;> simp
  | cons first rest ih =>
    simp only [List.mapM_cons, Option.bind_eq_bind, Option.bind_eq_some_iff, ih, pure,
      Octets.text?_eq_some_iff, Option.some.injEq]
    constructor
    · rintro ⟨text, rfl, more, rfl, rfl⟩
      rfl
    · cases texts with
      | nil => intro h; cases h
      | cons text more =>
        intro h
        obtain ⟨rfl, rfl⟩ := List.cons.inj h
        exact ⟨text, rfl, more, rfl, rfl⟩

theorem acceptUrl_eq_ok_iff (arguments last : Arguments) (value : Octets) :
    acceptUrl arguments value = .ok last ↔
      arguments.url = none ∧
        ∃ url, value = Octets.ofText url ∧ last = { arguments with url := some url } := by
  unfold acceptUrl
  cases hurl : arguments.url with
  | some url => simp
  | none =>
    cases htext : value.text? with
    | none =>
      have broken := Octets.text?_eq_none_iff.mp htext
      simp [broken]
    | some url =>
      obtain rfl := Octets.text?_eq_some_iff.mp htext
      constructor
      · intro h
        cases h
        exact ⟨rfl, url, rfl, rfl⟩
      · rintro ⟨_, other, same, rfl⟩
        rw [Octets.ofText_injective same]
        rfl

theorem acceptWords_eq_ok_iff (arguments last : Arguments) (octets : List Octets) :
    acceptWords arguments octets = .ok last ↔
      ∃ texts, octets = texts.map Octets.ofText ∧
        last = { arguments with rest := arguments.rest ++ texts } := by
  unfold acceptWords
  cases h : octets.mapM Octets.text? with
  | none =>
    have broken : ∀ texts : List String, octets ≠ texts.map Octets.ofText := by
      intro texts same
      rw [(mapM_text?_eq_some_iff octets texts).mpr same] at h
      cases h
    simp [broken]
  | some texts =>
    obtain rfl := (mapM_text?_eq_some_iff octets texts).mp h
    constructor
    · intro h
      cases h
      exact ⟨texts, rfl, rfl⟩
    · rintro ⟨others, same, rfl⟩
      rw [List.map_inj_right (fun _ _ => Octets.ofText_injective) |>.mp same]

def Settles (result : Except Refusal Scan) (arguments : Arguments) : Prop :=
  ∃ next, result = .ok next ∧ next.settle = .ok arguments

theorem settles_ok (scan : Scan) (arguments : Arguments) :
    Settles (.ok scan) arguments ↔ scan.settle = .ok arguments := by
  simp [Settles]

theorem not_settles_error (refusal : Refusal) (arguments : Arguments) :
    ¬Settles (.error refusal) arguments := by
  rintro ⟨next, h, _⟩
  cases h

theorem acceptWords_snoc (arguments last : Arguments) (earlier : List Octets) (octets : Octets) :
    acceptWords arguments (earlier ++ [octets]) = .ok last ↔
      ∃ between text, acceptWords arguments earlier = .ok between ∧
        octets = Octets.ofText text ∧ last = { between with rest := between.rest ++ [text] } := by
  simp only [acceptWords_eq_ok_iff]
  constructor
  · rintro ⟨texts, same, rfl⟩
    obtain ⟨front, back, rfl, hfront, hback⟩ := List.map_eq_append_iff.mp same.symm
    obtain ⟨text, rfl, rfl⟩ := List.map_eq_singleton_iff.mp hback
    exact ⟨_, text, ⟨front, hfront.symm, rfl⟩, rfl, by rw [List.append_assoc]⟩
  · rintro ⟨_, text, ⟨texts, rfl, rfl⟩, rfl, rfl⟩
    exact ⟨texts ++ [text], by simp, by rw [List.append_assoc]⟩

theorem settles_word_iff (scan : Scan) (octets : Octets) (last : Arguments) :
    Settles (scan.word octets) last ↔
      ∃ arguments text, scan.settle = .ok arguments ∧ octets = Octets.ofText text ∧
        last = { arguments with rest := arguments.rest ++ [text] } := by
  unfold word
  split
  · next earlier pending =>
    rw [settles_ok, settle, acceptWords_snoc, settle, pending]
  · cases settled : scan.settle with
    | error refusal => simp [not_settles_error]
    | ok accepted =>
      dsimp only
      rw [settles_ok, settle, ← List.nil_append [octets], acceptWords_snoc]
      simp [acceptWords]

theorem settles_words_iff (scan : Scan) (octets : List Octets) (last : Arguments) :
    Settles (scan.words octets) last ↔
      ∃ arguments texts, scan.settle = .ok arguments ∧ octets = texts.map Octets.ofText ∧
        last = { arguments with rest := arguments.rest ++ texts } := by
  induction octets generalizing scan with
  | nil =>
    rw [words, settles_ok]
    constructor
    · intro h
      exact ⟨last, [], h, rfl, by rw [List.append_nil]⟩
    · rintro ⟨arguments, texts, h, none, rfl⟩
      obtain rfl := List.map_eq_nil_iff.mp none.symm
      rw [h, List.append_nil]
  | cons first rest ih =>
    have step : Settles (scan.words (first :: rest)) last ↔
        ∃ next, scan.word first = .ok next ∧ Settles (next.words rest) last := by
      rw [words]
      cases scan.word first with
      | error refusal => simp [not_settles_error]
      | ok next => simp
    rw [step]
    constructor
    · rintro ⟨next, hnext, h⟩
      obtain ⟨between, texts, hsettle, rfl, rfl⟩ := (ih next).mp h
      obtain ⟨arguments, text, hs, rfl, rfl⟩ :=
        (settles_word_iff scan first between).mp ⟨next, hnext, hsettle⟩
      exact ⟨arguments, text :: texts, hs, rfl, by simp⟩
    · rintro ⟨arguments, texts, hs, same, rfl⟩
      obtain ⟨text, more, rfl, rfl, rfl⟩ := List.map_eq_cons_iff.mp same.symm
      obtain ⟨next, hnext, hsettle⟩ :=
        (settles_word_iff scan (Octets.ofText text) _).mpr ⟨arguments, text, hs, rfl, rfl⟩
      exact ⟨next, hnext, (ih next).mpr ⟨_, more, hsettle, rfl, by simp⟩⟩

theorem settles_urlOption_iff (scan : Scan) (value : Octets) (last : Arguments) :
    Settles (scan.urlOption (some value)) last ↔
      ∃ arguments, scan.settle = .ok arguments ∧ acceptUrl arguments value = .ok last := by
  unfold urlOption
  cases scan.settle with
  | error refusal => simp [not_settles_error]
  | ok arguments =>
    cases accepted : acceptUrl arguments value with
    | error refusal => simp [not_settles_error, accepted]
    | ok next => simp [settles_ok, settle, accepted]

theorem urlOption_none_eq_ok_iff (scan next : Scan) :
    scan.urlOption none = .ok next ↔
      ∃ arguments, scan.settle = .ok arguments ∧ next = ⟨arguments, .url⟩ := by
  unfold urlOption
  cases scan.settle with
  | error refusal => simp
  | ok arguments => simp [eq_comm]

theorem split_at_equals (front value : Octets) (h : equals ∉ front) :
    (front ++ equals :: value).takeWhile (· ≠ equals) = front ∧
      (front ++ equals :: value).dropWhile (· ≠ equals) = equals :: value := by
  have hfront : ∀ b ∈ front, decide (b ≠ equals) = true := by
    intro b hb
    exact decide_eq_true fun same => h (same ▸ hb)
  rw [List.takeWhile_append_of_pos hfront, List.dropWhile_append_of_pos hfront]
  simp

theorem ofName?_eq_url_iff (text : String) : LongOption.ofName? text = some .url ↔ text = "url" := by
  constructor
  · intro h
    have named := List.find?_some h
    exact (beq_iff_eq.mp named).symm
  · rintro rfl
    rfl

theorem long_url (scan : Scan) : scan.long (Octets.ofText "url") = scan.urlOption none := rfl

theorem long_url_value (scan : Scan) (value : Octets) :
    scan.long (Octets.ofText "url=" ++ value) = scan.urlOption (some value) := by
  have urlText : Octets.ofText "url=" ++ value = Octets.ofText "url" ++ equals :: value := rfl
  have name : LongOption.ofName? "url" = some .url := rfl
  obtain ⟨hname, hvalue⟩ := split_at_equals (Octets.ofText "url") value (by decide)
  rw [urlText, long, hname, hvalue, Octets.text?_ofText]
  simp only [name, List.mem_append, List.mem_cons, true_or, or_true, if_true, List.drop_one,
    List.tail_cons]

theorem urlOption_of_long {scan next : Scan} {body : Octets} (h : scan.long body = .ok next) :
    (body = Octets.ofText "url" ∧ scan.urlOption none = .ok next) ∨
      ∃ value, body = Octets.ofText "url=" ++ value ∧ scan.urlOption (some value) = .ok next := by
  unfold long at h
  dsimp only at h
  split at h
  · cases h
  next name named =>
    split at h
    · cases h
    next known =>
      obtain rfl := (ofName?_eq_url_iff name).mp known
      rw [Octets.text?_eq_some_iff] at named
      by_cases hmem : equals ∈ body
      · obtain ⟨front, value, rfl, hfront⟩ := List.eq_append_cons_of_mem hmem
        obtain ⟨hname, hvalue⟩ := split_at_equals front value hfront
        rw [hname] at named
        rw [if_pos hmem, hvalue] at h
        exact .inr ⟨value, by rw [named]; rfl, h⟩
      · rw [if_neg hmem] at h
        rw [List.takeWhile_eq_self_iff.mpr] at named
        · exact .inl ⟨named, h⟩
        · intro b hb
          exact decide_eq_true fun same => hmem (same ▸ hb)
    · split at h <;> cases h

theorem uncons?_u (rest : Octets) : Octets.uncons? (0x75 :: rest) = some ('u', rest) := by
  have due : Octets.expected 0x75 = some (0, 0x80, 0xBF) := rfl
  have text : Octets.text? [0x75] = some "u" := Octets.text?_ofText "u"
  rw [Octets.uncons?, List.head?_cons, Option.bind_some, due, Option.bind_some]
  change ((Octets.text? [0x75]).bind fun s => s.toList.head?.map fun c => (c, rest)) = _
  rw [text]
  rfl

theorem eq_of_uncons?_u {octets rest : Octets} (h : octets.uncons? = some ('u', rest)) :
    octets = 0x75 :: rest := by
  simp only [Octets.uncons?, Option.bind_eq_some_iff, Option.map_eq_some_iff] at h
  obtain ⟨⟨due, low, high⟩, ⟨lead, hlead, hdue⟩, s, hs, c, hc, same⟩ := h
  obtain ⟨rfl, rfl⟩ := Prod.mk.inj same
  obtain ⟨more, rfl⟩ := List.head?_eq_some_iff.mp hlead
  rw [Octets.text?_eq_some_iff, Octets.ofText_eq_flatMap] at hs
  obtain ⟨cs, hcs⟩ := List.head?_eq_some_iff.mp hc
  rw [hcs, List.flatMap_cons, List.take_succ_cons] at hs
  obtain rfl : lead = 0x75 := (List.cons.inj hs).1
  cases hdue
  rfl

theorem short_u (scan : Scan) : scan.short (Octets.ofText "u") = scan.urlOption none := by
  rw [show Octets.ofText "u" = 0x75 :: [] from rfl, short, uncons?_u]
  rfl

theorem short_u_equals (scan : Scan) (value : Octets) :
    scan.short (Octets.ofText "u=" ++ value) = scan.urlOption (some value) := by
  rw [show Octets.ofText "u=" ++ value = 0x75 :: equals :: value from rfl, short, uncons?_u]
  rfl

theorem short_u_value (scan : Scan) {value : Octets} (filled : value ≠ [])
    (bare : value.head? ≠ some equals) :
    scan.short (Octets.ofText "u" ++ value) = scan.urlOption (some value) := by
  rw [show Octets.ofText "u" ++ value = 0x75 :: value from rfl, short, uncons?_u]
  simp only [if_true, if_neg filled, if_neg bare]

theorem urlOption_of_short {scan next : Scan} {body : Octets} (h : scan.short body = .ok next) :
    (body = Octets.ofText "u" ∧ scan.urlOption none = .ok next) ∨
      ∃ value, scan.urlOption (some value) = .ok next ∧
        (body = Octets.ofText "u=" ++ value ∨
          body = Octets.ofText "u" ++ value ∧ value ≠ [] ∧ value.head? ≠ some equals) := by
  unfold short at h
  split at h
  · cases h
  next letter value parted =>
    split at h
    next isU =>
      obtain rfl := eq_of_uncons?_u (isU ▸ parted)
      split at h
      next empty =>
        subst empty
        exact .inl ⟨rfl, h⟩
      next filled =>
        split at h
        next assigned =>
          obtain ⟨rest, rfl⟩ := List.head?_eq_some_iff.mp assigned
          exact .inr ⟨rest, h, .inl rfl⟩
        next bare => exact .inr ⟨value, h, .inr ⟨rfl, filled, bare⟩⟩
    · split at h <;> cases h

theorem isPlain_iff (word : String) :
    IsPlain word ↔ ∀ first body, Octets.ofText word ≠ dash :: first :: body := by
  constructor
  · rintro (rfl | head) first body h
    · cases h
    · obtain ⟨rest, rfl, _⟩ := Octets.exists_of_ofText_eq_cons (by decide) h
      apply head
      rw [String.toList_append, String.toList_singleton]
      rfl
  · intro h
    by_contra hn
    rw [IsPlain, not_or, not_not] at hn
    obtain ⟨rest, hrest⟩ := List.head?_eq_some_iff.mp hn.2
    rw [Octets.ofText_eq_flatMap, hrest, List.flatMap_cons] at h
    cases rest with
    | nil => exact hn.1 (String.toList_injective hrest)
    | cons c cs =>
      rw [List.flatMap_cons] at h
      cases hc : String.utf8EncodeChar c with
      | nil => exact String.utf8EncodeChar_ne_nil hc
      | cons first body => exact h first _ (by rw [hc]; rfl)

theorem ofText_ne_nil_iff (url : String) : Octets.ofText url ≠ [] ↔ url ≠ "" := by
  constructor
  · rintro h rfl
    exact h rfl
  · intro h same
    exact h (Octets.ofText_injective same)

theorem head?_ofText_ne_equals_iff (url : String) :
    (Octets.ofText url).head? ≠ some equals ↔ url.toList.head? ≠ some '=' := by
  apply not_congr
  constructor
  · intro h
    obtain ⟨rest, hrest⟩ := List.head?_eq_some_iff.mp h
    obtain ⟨text, rfl, _⟩ := Octets.exists_of_ofText_eq_cons (by decide) hrest
    rw [String.toList_append, String.toList_singleton]
    rfl
  · intro h
    obtain ⟨rest, hrest⟩ := List.head?_eq_some_iff.mp h
    rw [Octets.ofText_eq_flatMap, hrest, List.flatMap_cons]
    rfl

theorem ofText_ne_escape {word : String} (h : word ≠ "--") : Octets.ofText word ≠ escape :=
  fun same => h (Octets.ofText_injective same)

theorem token_plain (scan : Scan) {word : String} (plain : IsPlain word) :
    scan.token (Octets.ofText word) =
      if scan.pending = .url then .ok { scan with pending := .value (Octets.ofText word) }
      else scan.word (Octets.ofText word) := by
  have h := (isPlain_iff word).mp plain
  unfold token
  split
  next body same => exact absurd same (h _ _)
  next first body _ same => exact absurd same (h _ _)
  · rfl

inductive Step (scan : Scan) (octets : Octets) : Arguments → Prop
  | word {arguments : Arguments} {text : String} (settled : scan.settle = .ok arguments)
      (token : octets = Octets.ofText text) (plain : IsPlain text) :
      Step scan octets { arguments with rest := arguments.rest ++ [text] }
  | value {text : String} (pending : scan.pending = .url) (token : octets = Octets.ofText text)
      (plain : IsPlain text) (first : scan.accepted.url = none) :
      Step scan octets { scan.accepted with url := some text }
  | attached {arguments : Arguments} {url spelled : String}
      (settled : scan.settle = .ok arguments) (token : octets = Octets.ofText spelled)
      (spelling : Spelling url [spelled]) (first : arguments.url = none) :
      Step scan octets { arguments with url := some url }

theorem settle_waiting {scan : Scan} (pending : scan.pending = .url) (arguments : Arguments) :
    scan.settle ≠ .ok arguments := by
  rw [settle, pending]
  intro h
  cases h

theorem not_settles_urlOption_none (scan : Scan) (last : Arguments) :
    ¬Settles (scan.urlOption none) last := by
  rintro ⟨next, h, settled⟩
  obtain ⟨arguments, _, rfl⟩ := (urlOption_none_eq_ok_iff scan next).mp h
  exact settle_waiting rfl last settled

theorem step_of_settles {scan : Scan} {octets : Octets} {last : Arguments}
    (h : Settles (scan.token octets) last) : Step scan octets last := by
  have attached {value : Octets} (spell : String → String)
      (spelling : ∀ url, value = Octets.ofText url → Spelling url [spell url])
      (token : ∀ url, value = Octets.ofText url → octets = Octets.ofText (spell url))
      (settles : Settles (scan.urlOption (some value)) last) : Step scan octets last := by
    obtain ⟨arguments, settled, accepted⟩ := (settles_urlOption_iff scan value last).mp settles
    obtain ⟨first, url, rfl, rfl⟩ := (acceptUrl_eq_ok_iff arguments last value).mp accepted
    exact .attached settled (token url rfl) (spelling url rfl) first
  unfold token at h
  split at h
  next body =>
    obtain ⟨next, hnext, settled⟩ := h
    rcases urlOption_of_long hnext with ⟨_, bare⟩ | ⟨value, rfl, valued⟩
    · exact absurd ⟨next, bare, settled⟩ (not_settles_urlOption_none scan last)
    · apply attached ("--url=" ++ ·) (fun url _ => .longAttached) _ ⟨next, valued, settled⟩
      rintro url rfl
      rw [Octets.ofText_append]
      rfl
  next first body _ =>
    obtain ⟨next, hnext, settled⟩ := h
    rcases urlOption_of_short hnext with ⟨_, bare⟩ | ⟨value, valued, spelled⟩
    · exact absurd ⟨next, bare, settled⟩ (not_settles_urlOption_none scan last)
    · rcases spelled with spelled | ⟨spelled, filled, bare⟩
      · apply attached ("-u=" ++ ·) (fun url _ => .shortEquals) _ ⟨next, valued, settled⟩
        rintro url rfl
        rw [spelled, Octets.ofText_append]
        rfl
      · apply attached ("-u" ++ ·) _ _ ⟨next, valued, settled⟩
        · rintro url rfl
          exact .shortAttached ((ofText_ne_nil_iff url).mp filled)
            ((head?_ofText_ne_equals_iff url).mp bare)
        · rintro url rfl
          rw [spelled, Octets.ofText_append]
          rfl
  next notLong notShort =>
    have plain : ∀ text, octets = Octets.ofText text → IsPlain text := by
      rintro text rfl
      exact (isPlain_iff text).mpr fun first body same => notShort first body same
    split at h
    next pending =>
      rw [settles_ok] at h
      obtain ⟨first, url, rfl, rfl⟩ := (acceptUrl_eq_ok_iff scan.accepted last octets).mp h
      exact .value pending rfl (plain url rfl) first
    · obtain ⟨arguments, text, settled, rfl, rfl⟩ := (settles_word_iff scan octets last).mp h
      exact .word settled rfl (plain text rfl)

theorem Step.settles {scan : Scan} {octets : Octets} {last : Arguments}
    (h : Step scan octets last) : Settles (scan.token octets) last := by
  have attached {arguments : Arguments} (settled : scan.settle = .ok arguments)
      (first : arguments.url = none) (url : String) :
      Settles (scan.urlOption (some (Octets.ofText url))) { arguments with url := some url } :=
    (settles_urlOption_iff scan _ _).mpr
      ⟨arguments, settled, (acceptUrl_eq_ok_iff _ _ _).mpr ⟨first, url, rfl, rfl⟩⟩
  cases h with
  | word settled token plain =>
    subst token
    rw [token_plain scan plain, if_neg fun pending => settle_waiting pending _ settled]
    exact (settles_word_iff scan _ _).mpr ⟨_, _, settled, rfl, rfl⟩
  | value pending token plain first =>
    subst token
    rw [token_plain scan plain, if_pos pending, settles_ok]
    exact (acceptUrl_eq_ok_iff _ _ _).mpr ⟨first, _, rfl, rfl⟩
  | @attached _ url _ settled token spelling first =>
    subst token
    cases spelling with
    | longAttached =>
      rw [Octets.ofText_append]
      change Settles (scan.long (Octets.ofText "url=" ++ Octets.ofText url)) _
      rw [long_url_value]
      exact attached settled first url
    | shortEquals =>
      rw [Octets.ofText_append]
      change Settles (scan.short (Octets.ofText "u=" ++ Octets.ofText url)) _
      rw [short_u_equals]
      exact attached settled first url
    | shortAttached filled bare =>
      rw [Octets.ofText_append]
      change Settles (scan.short (Octets.ofText "u" ++ Octets.ofText url)) _
      rw [short_u_value scan ((ofText_ne_nil_iff url).mpr filled)
        ((head?_ofText_ne_equals_iff url).mpr bare)]
      exact attached settled first url

theorem word_pending {scan next : Scan} {octets : Octets} (h : scan.word octets = .ok next) :
    next.pending ≠ .url := by
  unfold word at h
  split at h
  · cases h
    nofun
  · split at h
    · cases h
    · cases h
      nofun

theorem urlOption_some_pending {scan next : Scan} {value : Octets}
    (h : scan.urlOption (some value) = .ok next) : next.pending ≠ .url := by
  unfold urlOption at h
  split at h
  · cases h
  · dsimp only at h
    split at h
    · cases h
    · cases h
      nofun

theorem waits_of_token {scan next : Scan} {octets : Octets} (h : scan.token octets = .ok next)
    (pending : next.pending = .url) :
    ∃ arguments, scan.settle = .ok arguments ∧ next = ⟨arguments, .url⟩ ∧
      (octets = Octets.ofText "--url" ∨ octets = Octets.ofText "-u") := by
  unfold token at h
  split at h
  · rcases urlOption_of_long h with ⟨rfl, bare⟩ | ⟨_, _, valued⟩
    · obtain ⟨arguments, settled, rfl⟩ := (urlOption_none_eq_ok_iff scan next).mp bare
      exact ⟨arguments, settled, rfl, .inl rfl⟩
    · exact absurd pending (urlOption_some_pending valued)
  · rcases urlOption_of_short h with ⟨same, bare⟩ | ⟨_, valued, _⟩
    · obtain ⟨arguments, settled, rfl⟩ := (urlOption_none_eq_ok_iff scan next).mp bare
      exact ⟨arguments, settled, rfl, .inr (by rw [same]; rfl)⟩
    · exact absurd pending (urlOption_some_pending valued)
  · split at h
    · cases h
      cases pending
    · exact absurd pending (word_pending h)

theorem token_waits {scan : Scan} {arguments : Arguments} (settled : scan.settle = .ok arguments) :
    scan.token (Octets.ofText "--url") = .ok ⟨arguments, .url⟩ ∧
      scan.token (Octets.ofText "-u") = .ok ⟨arguments, .url⟩ := by
  have waits := (urlOption_none_eq_ok_iff scan _).mpr ⟨arguments, settled, rfl⟩
  exact ⟨(long_url scan).trans waits, (short_u scan).trans waits⟩

theorem settles_tokens_cons_iff (scan : Scan) {octets : Octets} (rest : List Octets)
    (last : Arguments) (h : octets ≠ escape) :
    Settles (scan.tokens (octets :: rest)) last ↔
      ∃ next, scan.token octets = .ok next ∧ Settles (next.tokens rest) last := by
  rw [tokens, if_neg h]
  cases scan.token octets with
  | error refusal => simp [not_settles_error]
  | ok next => simp

theorem settles_tokens_escape_iff (scan : Scan) (rest : List Octets) (last : Arguments) :
    Settles (scan.tokens (escape :: rest)) last ↔
      ∃ arguments texts, scan.settle = .ok arguments ∧ rest = texts.map Octets.ofText ∧
        last = { arguments with rest := arguments.rest ++ texts } := by
  rw [tokens, if_pos rfl]
  exact settles_words_iff scan rest last

theorem not_isPlain_escape : ¬IsPlain "--" := by
  rintro (h | h)
  · exact absurd h (by decide)
  · exact h rfl

theorem ne_escape_of_spelling {url : String} {spelled : List String} (h : Spelling url spelled) :
    ∀ word ∈ spelled, word ≠ "--" := by
  have joined {front : String} (h : ¬front.toList <+: "--".toList) : front ++ url ≠ "--" :=
    fun same => h ⟨url.toList, by rw [← String.toList_append, same]⟩
  have value (plain : IsPlain url) : url ≠ "--" := fun same => not_isPlain_escape (same ▸ plain)
  cases h with
  | longAttached => simpa using joined (by decide)
  | shortEquals => simpa using joined (by decide)
  | shortAttached filled bare => simpa using joined (by decide)
  | longApart plain => simpa using value plain
  | shortApart plain => simpa using value plain

theorem settles_tokens_of_reads {arguments last : Arguments} {words : List String}
    (h : Reads arguments words last) (scan : Scan) (settled : scan.settle = .ok arguments) :
    Settles (scan.tokens (words.map Octets.ofText)) last := by
  induction h generalizing scan with
  | done arguments => exact ⟨scan, rfl, settled⟩
  | escaped arguments rest =>
    exact (settles_tokens_escape_iff scan _ _).mpr ⟨arguments, rest, settled, rfl, rfl⟩
  | @plain arguments last word words plain more ih =>
    obtain ⟨next, hnext, hsettled⟩ := (Step.word settled rfl plain).settles
    have word_ne : word ≠ "--" := fun same => not_isPlain_escape (same ▸ plain)
    exact (settles_tokens_cons_iff scan _ _ (ofText_ne_escape word_ne)).mpr
      ⟨next, hnext, ih next hsettled⟩
  | @option arguments last url spelled words first spelling more ih =>
    have spelled_ne := ne_escape_of_spelling spelling
    have attached {word : String} (spelling : Spelling url [word]) (word_ne : word ≠ "--") :
        Settles (scan.tokens (([word] ++ words).map Octets.ofText)) last := by
      obtain ⟨next, hnext, hsettled⟩ := (Step.attached settled rfl spelling first).settles
      exact (settles_tokens_cons_iff scan _ _ (ofText_ne_escape word_ne)).mpr
        ⟨next, hnext, ih next hsettled⟩
    have apart {word : String} (plain : IsPlain url) (word_ne : word ≠ "--") (url_ne : url ≠ "--")
        (waits : scan.token (Octets.ofText word) = .ok ⟨arguments, .url⟩) :
        Settles (scan.tokens (([word, url] ++ words).map Octets.ofText)) last := by
      have step : Step ⟨arguments, .url⟩ (Octets.ofText url) { arguments with url := some url } :=
        .value rfl rfl plain first
      obtain ⟨next, hnext, hsettled⟩ := step.settles
      apply (settles_tokens_cons_iff scan _ _ (ofText_ne_escape word_ne)).mpr
      refine ⟨_, waits, ?_⟩
      exact (settles_tokens_cons_iff _ _ _ (ofText_ne_escape url_ne)).mpr
        ⟨next, hnext, ih next hsettled⟩
    cases spelling with
    | longAttached => exact attached .longAttached (spelled_ne _ (by simp))
    | shortEquals => exact attached .shortEquals (spelled_ne _ (by simp))
    | shortAttached filled bare =>
      exact attached (.shortAttached filled bare) (spelled_ne _ (by simp))
    | longApart plain =>
      exact apart plain (spelled_ne _ (by simp)) (spelled_ne _ (by simp)) (token_waits settled).1
    | shortApart plain =>
      exact apart plain (spelled_ne _ (by simp)) (spelled_ne _ (by simp)) (token_waits settled).2

theorem reads_of_settles_tokens {octets : List Octets} {scan : Scan} {last : Arguments}
    (h : Settles (scan.tokens octets) last) :
    ∃ words, octets = words.map Octets.ofText ∧
      ((∃ arguments, scan.settle = .ok arguments ∧ Reads arguments words last) ∨
        ∃ value more, words = value :: more ∧ scan.pending = .url ∧ IsPlain value ∧
          scan.accepted.url = none ∧ Reads { scan.accepted with url := some value } more last) := by
  induction octets generalizing scan with
  | nil =>
    rw [tokens, settles_ok] at h
    exact ⟨[], rfl, .inl ⟨last, h, .done last⟩⟩
  | cons first rest ih =>
    by_cases hescape : first = escape
    · subst hescape
      obtain ⟨arguments, texts, settled, rfl, rfl⟩ := (settles_tokens_escape_iff scan rest last).mp h
      exact ⟨"--" :: texts, rfl, .inl ⟨arguments, settled, .escaped arguments texts⟩⟩
    · obtain ⟨next, hnext, h⟩ := (settles_tokens_cons_iff scan rest last hescape).mp h
      obtain ⟨words, rfl, ⟨between, reached, reads⟩ | ⟨value, more, rfl, pending, plain, unset, reads⟩⟩ :=
        ih h
      · cases step_of_settles ⟨next, hnext, reached⟩ with
        | @word arguments text settled token plain =>
          exact ⟨text :: words, by rw [token]; rfl, .inl ⟨arguments, settled, .plain plain reads⟩⟩
        | @value text pending token plain unset =>
          exact ⟨text :: words, by rw [token]; rfl,
            .inr ⟨text, words, rfl, pending, plain, unset, reads⟩⟩
        | @attached arguments url spelled settled token spelling unset =>
          exact ⟨spelled :: words, by rw [token]; rfl,
            .inl ⟨arguments, settled, .option unset spelling reads⟩⟩
      · obtain ⟨arguments, settled, rfl, token⟩ := waits_of_token hnext pending
        rcases token with rfl | rfl
        · exact ⟨"--url" :: value :: more, rfl,
            .inl ⟨arguments, settled, .option unset (.longApart plain) reads⟩⟩
        · exact ⟨"-u" :: value :: more, rfl,
            .inl ⟨arguments, settled, .option unset (.shortApart plain) reads⟩⟩

end Scan

theorem parse_eq_ok_iff_settles (octets : List Octets) (arguments : Arguments) :
    parse octets = .ok arguments ↔ Scan.Settles (({} : Scan).tokens octets) arguments := by
  unfold parse
  cases ({} : Scan).tokens octets with
  | error refusal => simp [Scan.not_settles_error]
  | ok next => simp [Scan.settles_ok]

theorem parse_eq_ok_iff_reads (octets : List Octets) (arguments : Arguments) :
    parse octets = .ok arguments ↔
      ∃ words, octets = words.map Octets.ofText ∧ Reads {} words arguments := by
  rw [parse_eq_ok_iff_settles]
  constructor
  · intro h
    obtain ⟨words, rfl, ⟨start, settled, reads⟩ | ⟨_, _, _, pending, _⟩⟩ :=
      Scan.reads_of_settles_tokens h
    · cases settled
      exact ⟨words, rfl, reads⟩
    · cases pending
  · rintro ⟨words, rfl, reads⟩
    exact Scan.settles_tokens_of_reads reads {} rfl

end UrlHandoff.CommandLine

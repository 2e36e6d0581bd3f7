import UrlHandoff.Proofs.SettingsAcceptance

namespace UrlHandoff.Settings

open Document

structure Visit where
  path : List String
  key : Key
  node : Node

mutual

def visits (path : List String) : List (Key × Node) → List Visit
  | [] => []
  | (key, node) :: rest =>
    ⟨path ++ [key.name], key, node⟩ :: (visitsBelow (path ++ [key.name]) node ++ visits path rest)

def visitsBelow (path : List String) : Node → List Visit
  | .table _ entries => visits path entries
  | .scalar _ _ | .array _ _ | .tables _ => []

end

inductive Place
  | defaultUrl
  | graceSeconds
  | translations
  | locale
  | translation
  deriving DecidableEq

def place? : List String → Option Place
  | ["default_url"] => some .defaultUrl
  | ["exit_grace_secs"] => some .graceSeconds
  | ["translations"] => some .translations
  | ["translations", _] => some .locale
  | ["translations", _, _] => some .translation
  | _ => none

namespace Place

def Admits : Place → Node → Prop
  | defaultUrl, node | translation, node => IsText node
  | graceSeconds, node => IsSeconds node
  | translations, node => ∃ origin entries, node = .table origin entries
  | locale, node =>
    (∃ origin entries, node = .table origin entries) ∨
      ∃ value span, node = .scalar (.moment value) span

def requires : Place → String
  | defaultUrl | translation => "a string"
  | graceSeconds => "u64"
  | translations | locale => "a map"

/-- How the kind of a value is told. A date shows as a map, or as its text where the tables of all
locales should stand. -/
def shows : Place → Node → String
  | translations, .scalar (.moment value) _ => "string " ++ Text.quote value.text
  | _, .scalar (.moment _) _ => "map"
  | _, .scalar (.text value) _ => "string " ++ Text.quote value
  | _, .scalar (.integer value) _ => "integer `" ++ toString value ++ "`"
  | _, .scalar (.float value) _ => "floating point `" ++ value.text ++ "`"
  | _, .scalar (.boolean value) _ => "boolean `" ++ toString value ++ "`"
  | _, .array _ _ | _, .tables _ => "sequence"
  | _, .table _ _ => "map"

def complaint (place : Place) (node : Node) : String :=
  (match place, node with
    | graceSeconds, .scalar (.integer _) _ => "invalid value: "
    | _, _ => "invalid type: ") ++ place.shows node ++ ", expected " ++ place.requires

def requirement : Place → Requirement
  | defaultUrl | translation => .text
  | graceSeconds => .seconds
  | translations | locale => .table

theorem message_ofNode {place : Place} {node : Node}
    (other : place = translations → ∀ value span, node ≠ .scalar (.moment value) span)
    (span : Span) :
    (⟨.ofNode node, place.requirement, span⟩ : Fault).message = place.complaint node := by
  cases node with
  | scalar value span =>
    cases value with
    | moment value =>
      cases place with
      | translations => exact absurd rfl (other rfl value span)
      | _ => rfl
    | _ => cases place <;> rfl
  | _ => cases place <;> rfl

end Place

namespace Visit

def ofEntry (path : List String) (entry : Key × Node) : Visit :=
  ⟨path ++ [entry.1.name], entry.1, entry.2⟩

def branch (visit : Visit) : List Visit := visit :: visitsBelow visit.path visit.node

/-- Where the text of a value stands. A table that no text of its own wrote stands at its key. -/
def span (visit : Visit) : Span := visit.node.span?.getD visit.key.span

def Sound (visit : Visit) : Prop :=
  ∀ place, place? visit.path = some place → place.Admits visit.node

inductive Blamed (visit : Visit) (fault : Fault) : Prop
  | wrong {place : Place} (known : place? visit.path = some place)
      (wrong : ¬place.Admits visit.node) (span : fault.span = visit.span)
      (message : fault.message = place.complaint visit.node)

end Visit

theorem visits_eq_flatMap (path : List String) (entries : Entries) :
    visits path entries = entries.flatMap fun entry => (Visit.ofEntry path entry).branch := by
  induction entries with
  | nil => rw [visits, List.flatMap_nil]
  | cons entry rest ih =>
    rw [List.flatMap_cons, visits, ih]
    rfl

theorem path_of_mem_visitsBelow {path : List String} {visit : Visit} :
    ∀ {node : Node}, visit ∈ visitsBelow path node →
      ∃ name more, visit.path = path ++ name :: more
  | .table _ entries, member => by
    rw [visitsBelow, visits_eq_flatMap, List.mem_flatMap] at member
    obtain ⟨⟨key, node⟩, held, member⟩ := member
    obtain rfl | below := List.mem_cons.mp member
    · exact ⟨key.name, [], rfl⟩
    · have smaller : sizeOf node < sizeOf entries :=
        Nat.lt_trans (by simp only [Prod.mk.sizeOf_spec]; omega) (List.sizeOf_lt_of_mem held)
      obtain ⟨name, more, longer⟩ := path_of_mem_visitsBelow below
      exact ⟨key.name, name :: more, by rw [longer]; exact List.append_assoc _ _ _⟩
  | .scalar _ _, member | .array _ _, member | .tables _, member => by
    rw [visitsBelow] at member
    cases member
termination_by node => sizeOf node
decreasing_by
  simp only [Node.table.sizeOf_spec, Visit.ofEntry]
  omega

/-- What a reader of some entries comes to: all that it visits is sound, or it blames the first
value that is not. -/
inductive Judges {α : Type} (seen : List Visit) : Except Fault α → Prop
  | accepts {value : α} (sound : ∀ visit ∈ seen, visit.Sound) : Judges seen (.ok value)
  | blames {before after : List Visit} {visit : Visit} {fault : Fault}
      (order : seen = before ++ visit :: after) (sound : ∀ earlier ∈ before, earlier.Sound)
      (blamed : visit.Blamed fault) : Judges seen (.error fault)

section Judges

variable {α β : Type} {seen more : List Visit} {visit : Visit}

theorem Judges.map {result : Except Fault α} (h : Judges seen result) (f : α → β) :
    Judges seen (result.map f) := by
  cases h with
  | accepts sound => exact .accepts sound
  | blames order sound blamed => exact .blames order sound blamed

theorem Judges.prepend {result : Except Fault α} (sound : ∀ visit ∈ seen, visit.Sound)
    (h : Judges more result) : Judges (seen ++ more) result := by
  cases h with
  | accepts later => exact .accepts (List.forall_mem_append.mpr ⟨sound, later⟩)
  | @blames before after visit fault order earlier blamed =>
    have order : seen ++ more = (seen ++ before) ++ visit :: after := by
      rw [order, List.append_assoc]
    exact .blames order (List.forall_mem_append.mpr ⟨sound, earlier⟩) blamed

theorem Judges.stop {fault : Fault} (h : Judges seen (.error fault : Except Fault α)) :
    Judges (seen ++ more) (.error fault : Except Fault β) := by
  cases h with
  | @blames before after visit fault order sound blamed =>
    have order : seen ++ more = before ++ visit :: (after ++ more) := by
      rw [order, List.append_assoc, List.cons_append]
    exact .blames order sound blamed

theorem Judges.of_first {fault : Fault} (blamed : visit.Blamed fault) :
    Judges (visit :: more) (.error fault : Except Fault α) :=
  .blames (List.nil_append _).symm nofun blamed

theorem Judges.cons {result : Except Fault α} (h : Judges more result) (sound : visit.Sound) :
    Judges (visit :: more) result :=
  h.prepend (List.forall_mem_singleton.mpr sound)

theorem judges_foldlM {step : β → Key × Node → Except Fault β} {visitsOf : Key × Node → List Visit}
    {entries : Entries} (each : ∀ entry ∈ entries, ∀ done, Judges (visitsOf entry) (step done entry))
    (start : β) : Judges (entries.flatMap visitsOf) (entries.foldlM step start) := by
  induction entries generalizing start with
  | nil => exact .accepts nofun
  | cons entry rest ih =>
    obtain ⟨first, each⟩ := List.forall_mem_cons.mp each
    have judged := first start
    rw [List.flatMap_cons, List.foldlM_cons]
    cases result : step start entry with
    | error fault =>
      -- The fold ends here, with the later entries unseen.
      rw [result] at judged
      exact judged.stop
    | ok next =>
      rw [result] at judged
      cases judged with
      | accepts sound => exact (ih each next).prepend sound

end Judges

inductive ReadsLeaf {α : Type} (place : Place) (key : Key) (node : Node) : Except Fault α → Prop
  | fits {value : α} (admits : place.Admits node) : ReadsLeaf place key node (.ok value)
  | fails (wrong : ¬place.Admits node) :
      ReadsLeaf place key node (wrongShape key node place.requirement)

theorem readsLeaf_text {place : Place} (admits : place.Admits = IsText)
    (requires : place.requirement = .text) (key : Key) (node : Node) :
    ReadsLeaf place key node (decodeText key node) := by
  unfold decodeText
  split
  · refine .fits ?_
    rw [admits]
    exact ⟨_, _, rfl⟩
  next other =>
    rw [← requires]
    refine .fails ?_
    rw [admits]
    rintro ⟨value, span, rfl⟩
    exact other value span rfl

theorem readsLeaf_seconds (key : Key) (node : Node) :
    ReadsLeaf .graceSeconds key node (decodeSeconds key node) := by
  unfold decodeSeconds
  split
  · exact .fits ⟨_, _, rfl⟩
  next other =>
    refine .fails ?_
    rintro ⟨value, span, rfl⟩
    exact other value span rfl

theorem Visit.sound_of_admits (place : Place) {visit : Visit}
    (known : place? visit.path = some place) (admits : place.Admits visit.node) : visit.Sound := by
  intro found same
  rw [known] at same
  cases same
  exact admits

theorem Visit.sound_of_unknown {visit : Visit} (unknown : place? visit.path = none) :
    visit.Sound := by
  intro place known
  rw [unknown] at known
  cases known

theorem sound_below {path : List String} (leaf : ∀ name more, place? (path ++ name :: more) = none)
    (node : Node) : ∀ later ∈ visitsBelow path node, later.Sound := by
  intro later member
  obtain ⟨name, more, longer⟩ := path_of_mem_visitsBelow member
  exact Visit.sound_of_unknown (longer ▸ leaf name more)

theorem judges_wrong {α : Type} (place : Place) {visit : Visit} {more : List Visit}
    (known : place? visit.path = some place) (wrong : ¬place.Admits visit.node)
    (other : place = .translations → ∀ value span, visit.node ≠ .scalar (.moment value) span) :
    Judges (visit :: more) (wrongShape visit.key visit.node place.requirement : Except Fault α) :=
  .of_first (.wrong known wrong rfl (Place.message_ofNode other _))

theorem judges_leaf {α : Type} (place : Place) {visit : Visit} {result : Except Fault α}
    (known : place? visit.path = some place) (other : place ≠ .translations)
    (leaf : ∀ name more, place? (visit.path ++ name :: more) = none)
    (reads : ReadsLeaf place visit.key visit.node result) : Judges visit.branch result := by
  cases reads with
  | fits admits =>
    refine .accepts (List.forall_mem_cons.mpr ⟨?_, sound_below leaf visit.node⟩)
    exact Visit.sound_of_admits place known admits
  | fails wrong => exact judges_wrong place known wrong fun same => absurd same other

theorem judges_entries {α : Type} {decode : Key → Node → Except Fault α} {path : List String}
    {entries : Entries} (each : ∀ entry ∈ entries,
      Judges (Visit.ofEntry path entry).branch (decode entry.1 entry.2)) :
    Judges (visits path entries) (decodeEntries decode entries) := by
  rw [visits_eq_flatMap]
  exact judges_foldlM (fun entry member _ => (each entry member).map _) ∅

theorem judges_table (locale : String) (key : Key) (node : Node) :
    Judges (Visit.branch ⟨["translations", locale], key, node⟩) (decodeTable key node) := by
  cases node with
  | table origin entries =>
    refine (judges_entries fun entry _ => ?_).cons ?_
    · exact judges_leaf .translation rfl nofun (fun _ _ => rfl) (readsLeaf_text rfl rfl _ _)
    · exact Visit.sound_of_admits .locale rfl (Or.inl ⟨origin, entries, rfl⟩)
  | scalar value span =>
    cases value with
    | moment value =>
      refine .accepts (List.forall_mem_singleton.mpr ?_)
      exact Visit.sound_of_admits .locale rfl (Or.inr ⟨value, span, rfl⟩)
    | _ => exact judges_wrong .locale rfl (by simp [Place.Admits]) nofun
  | array items span => exact judges_wrong .locale rfl (by simp [Place.Admits]) nofun
  | tables elements => exact judges_wrong .locale rfl (by simp [Place.Admits]) nofun

theorem judges_tables (key : Key) (node : Node) :
    Judges (Visit.branch ⟨["translations"], key, node⟩) (decodeTables key node) := by
  cases node with
  | table origin entries =>
    refine (judges_entries fun entry _ => ?_).cons ?_
    · exact judges_table entry.1.name entry.1 entry.2
    · exact Visit.sound_of_admits .translations rfl ⟨origin, entries, rfl⟩
  | scalar value span =>
    cases value with
    | moment value =>
      have wrong : ¬Place.translations.Admits (.scalar (.moment value) span) := by
        simp [Place.Admits]
      exact .of_first (.wrong rfl wrong rfl rfl)
    | _ => exact judges_wrong .translations rfl (by simp [Place.Admits]) (by simp)
  | array items span => exact judges_wrong .translations rfl (by simp [Place.Admits]) (by simp)
  | tables elements => exact judges_wrong .translations rfl (by simp [Place.Admits]) (by simp)

theorem place?_of_unknown {name : String} (unknown : name ∉ knownKeys) (more : List String) :
    place? (name :: more) = none := by
  unfold place?
  split <;> simp_all [knownKeys]

theorem judges_setting (settings : Settings) (entry : Key × Node) :
    Judges (Visit.ofEntry [] entry).branch (decodeSetting settings entry) := by
  obtain ⟨⟨name, span⟩, node⟩ := entry
  unfold decodeSetting
  split
  next h =>
    cases h
    apply Judges.map
    exact judges_leaf .defaultUrl rfl nofun (fun _ _ => rfl) (readsLeaf_text rfl rfl _ _)
  next h =>
    cases h
    apply Judges.map
    exact judges_leaf .graceSeconds rfl nofun (fun _ _ => rfl) (readsLeaf_seconds _ _)
  next h =>
    cases h
    apply Judges.map
    exact judges_tables _ _
  next hurl hgrace htranslations =>
    have unknown : name ∉ knownKeys := by
      simp only [knownKeys, List.mem_cons, List.not_mem_nil, or_false, not_or]
      exact ⟨hurl, hgrace, htranslations⟩
    refine .accepts (List.forall_mem_cons.mpr ⟨?_, sound_below (fun below more => ?_) _⟩)
    · exact Visit.sound_of_unknown (place?_of_unknown unknown [])
    · exact place?_of_unknown unknown (below :: more)

theorem judges_decode (entries : Entries) : Judges (visits [] entries) (decode entries) := by
  rw [visits_eq_flatMap]
  exact judges_foldlM (fun entry _ settings => judges_setting settings entry) {}

theorem decodeSetting_of_unknown {entry : Key × Node} (unknown : entry.1.name ∉ knownKeys)
    (settings : Settings) : decodeSetting settings entry = .ok settings := by
  simp only [knownKeys, List.mem_cons, List.not_mem_nil, or_false, not_or] at unknown
  unfold decodeSetting
  split <;> simp_all

theorem decode_filter_known (entries : Entries) :
    decode (entries.filter (·.1.name ∈ knownKeys)) = decode entries := by
  rw [decode, List.foldlM_filter, decode]
  congr 1
  funext settings entry
  split
  · rfl
  next unknown => exact (decodeSetting_of_unknown (by simpa using unknown) settings).symm

theorem exists_report_eq (fault : Fault) (text : List Char) :
    ∃ excerpt, String.ofList (fault.report text) =
      "TOML parse error at line " ++ toString (fault.position text).line ++ ", column " ++
        toString (fault.position text).column ++ "\n" ++ excerpt ++ "\n" ++ fault.message ++ "\n" := by
  have decimal (n : Nat) : String.ofList (Nat.toDigits 10 n) = toString n := rfl
  have feed : String.ofList ['\n'] = "\n" := rfl
  dsimp only [Fault.report]
  -- None of the parts of the excerpt matters, only that they are in one piece.
  generalize fault.position text = place
  generalize ((text.splitOn '\n')[place.line - 1]?).getD [] = lineText
  generalize List.replicate ((Nat.toDigits 10 place.line).length + 1) ' ' ++ ['|'] = gutter
  generalize List.replicate (fault.caretCount text lineText) '^' = carets
  simp only [String.ofList_append, String.ofList_toList, decimal, feed]
  refine ⟨String.ofList gutter ++ "\n" ++ toString place.line ++ " | " ++ String.ofList lineText ++
    "\n" ++ String.ofList gutter ++ String.ofList (List.replicate place.column ' ') ++
    String.ofList carets, ?_⟩
  simp only [String.append_assoc]

/-- A document of a wrong shape is refused for the first of its values, depth first and in the
order of the keys, that is not what its place requires. The report gives the line and the column of
that value, what it is and what it should be. Unknown keys make no difference. -/
theorem loadFrom_blames_first {files : FileTree} {path : Path} {text : String} {entries : Entries}
    {error : LoadError} (read : files.read path = .ok (.ofText text))
    (parsed : parse text.toList = some entries) (failed : loadFrom files path = .error error) :
    ∃ fault, error = ⟨path.lossyText, .misshapen fault text.toList⟩ ∧
      (∃ before visit after place excerpt,
        visits [] entries = before ++ visit :: after ∧ (∀ earlier ∈ before, earlier.Sound) ∧
          place? visit.path = some place ∧ ¬place.Admits visit.node ∧
          error.cause = "TOML parse error at line " ++
            toString (visit.span.position text.toList).line ++ ", column " ++
            toString (visit.span.position text.toList).column ++ "\n" ++ excerpt ++ "\n" ++
            place.complaint visit.node ++ "\n") ∧
      ∀ others : Entries, others.filter (·.1.name ∈ knownKeys) = entries.filter (·.1.name ∈ knownKeys) →
        decode others = .error fault := by
  have judged := judges_decode entries
  cases decoded : decode entries with
  | ok settings =>
    rw [loadFrom_of_yields read (.sound rfl parsed decoded)] at failed
    cases failed
  | error fault =>
    rw [loadFrom_of_yields read (.misshapen rfl parsed decoded)] at failed
    obtain rfl := Except.error.inj failed
    refine ⟨fault, rfl, ?_, fun others same => ?_⟩
    · rw [decoded] at judged
      cases judged with
      | @blames before after visit fault order sound blamed =>
        obtain ⟨known, wrong, span, message⟩ := blamed
        obtain ⟨excerpt, report⟩ := exists_report_eq fault text.toList
        rw [Fault.position, span, message] at report
        exact ⟨before, visit, after, _, excerpt, order, sound, known, wrong, report⟩
    · rw [← decode_filter_known others, same, decode_filter_known, decoded]

set_option maxRecDepth 1000 in
theorem loadFrom_blames_first_behind_unknown :
    let text := "y.default_url=1\ntranslations.de=1979-05-27\ntranslations.fr.a=[2]\ndefault_url=4"
    let files : FileTree := ⟨[([.ofText "a"], .file (.ofText text))], []⟩
    let unknown : Key × Node := (⟨"y", ⟨78, 77⟩⟩, .table .dotted
      [(⟨"default_url", ⟨76, 65⟩⟩, .scalar (.integer 1) ⟨64, 63⟩)])
    let known : Entries :=
      [(⟨"translations", ⟨62, 50⟩⟩, .table .dotted
          [(⟨"de", ⟨49, 47⟩⟩, .scalar (.moment (.date ⟨1979, 5, 27⟩)) ⟨46, 36⟩),
            (⟨"fr", ⟨22, 20⟩⟩, .table .dotted
              [(⟨"a", ⟨19, 18⟩⟩, .array [.scalar (.integer 2) ⟨16, 15⟩] ⟨17, 14⟩)])]),
        (⟨"default_url", ⟨13, 2⟩⟩, .scalar (.integer 4) ⟨1, 0⟩)]
    let fault : Fault := ⟨.sequence, .text, ⟨17, 14⟩⟩
    files.read (.ofText "/a") = .ok (.ofText text) ∧
      parse text.toList = some (unknown :: known) ∧
      loadFrom files (.ofText "/a") =
        .error ⟨(Octets.ofText "/a").lossyText, .misshapen fault text.toList⟩ ∧
      fault.position text.toList = ⟨3, 19⟩ ∧
      fault.message = "invalid type: sequence, expected a string" ∧
      decode known = .error fault := by
  intro text files unknown known fault
  have read : files.read (.ofText "/a") = .ok (.ofText text) := rfl
  have parsed : parse text.toList = some (unknown :: known) := by cbv
  have failed : loadFrom files (.ofText "/a") =
      .error ⟨(Octets.ofText "/a").lossyText, .misshapen fault text.toList⟩ :=
    loadFrom_of_yields read (.misshapen rfl parsed rfl)
  obtain ⟨blamed, same, -, alike⟩ := loadFrom_blames_first read parsed failed
  cases same
  exact ⟨read, parsed, failed, by decide +kernel, rfl, alike known rfl⟩

end UrlHandoff.Settings

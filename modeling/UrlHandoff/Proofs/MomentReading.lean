import UrlHandoff.Proofs.NumberReading

namespace UrlHandoff.Document

open Grammar

section FixedDigits

variable {s rest : List Char} {count n : Nat}

theorem digits_of_each {radix : Nat} {digits : List Char}
    (each : ∀ c ∈ digits, isDigitIn radix c = true) :
    ∃ ns, List.Forall₂ (IsDigit radix) digits ns := by
  induction digits with
  | nil => exact ⟨[], .nil⟩
  | cons c digits ih =>
    obtain ⟨first, each⟩ := List.forall_mem_cons.mp each
    obtain ⟨n, digit⟩ := (isDigitIn_iff radix c).mp first
    obtain ⟨ns, more⟩ := ih each
    exact ⟨n :: ns, .cons digit more⟩

theorem each_of_digits {radix : Nat} {digits : List Char} {ns : List Nat}
    (h : List.Forall₂ (IsDigit radix) digits ns) : ∀ c ∈ digits, isDigitIn radix c = true := by
  induction h with
  | nil => exact List.forall_mem_nil _
  | cons first _ ih => exact List.forall_mem_cons.mpr ⟨(isDigitIn_iff radix _).mpr ⟨_, first⟩, ih⟩

theorem fixedText_of_fixedDigits (h : fixedDigits 10 count s = some (n, rest)) :
    ∃ w, s = w ++ rest ∧ FixedText count w n := by
  rw [fixedDigits, Option.ite_none_right_eq_some] at h
  obtain ⟨⟨length, all⟩, same⟩ := h
  cases same
  obtain ⟨ns, digits⟩ := digits_of_each (List.all_eq_true.mp all)
  rw [numberOf_digits digits]
  exact ⟨s.take count, (List.take_append_drop count s).symm, .written digits length⟩

theorem fixedDigits_of_fixedText {w : List Char} (h : FixedText count w n) (rest : List Char) :
    fixedDigits 10 count (w ++ rest) = some (n, rest) := by
  obtain ⟨digits, rfl⟩ := h
  have all := List.all_eq_true.mpr (each_of_digits digits)
  simp [fixedDigits, all, numberOf_digits digits]

theorem fixedDigits_of_fewer {w : List Char} (fewer : w.length < count)
    (follows : Ahead (fun c => isDigitIn 10 c = false) rest) :
    fixedDigits 10 count (w ++ rest) = none := by
  obtain ⟨more, hcount⟩ := Nat.exists_eq_add_of_lt fewer
  rw [fixedDigits]
  apply if_neg
  rintro ⟨length, all⟩
  rw [hcount, Nat.add_assoc, List.take_length_add_append] at length all
  cases rest with
  | nil => simp at length
  | cons c rest => simp [ahead_cons.mp follows] at all

end FixedDigits

theorem expect_eq_some_iff (c : Char) (s rest : List Char) :
    expect c s = some rest ↔ s = c :: rest := by
  cases s with
  | nil => simp [expect]
  | cons d s => simp [expect]

theorem isValid_iff (year month day : Nat) : Date.isValid ⟨year, month, day⟩ = true ↔
    (1 ≤ month ∧ month ≤ 12) ∧ 1 ≤ day ∧ day ≤ daysIn year month := by
  have days : daysInMonth year month = daysIn year month := by
    simp only [daysInMonth, daysIn, isLeapYear, Bool.and_eq_true, Bool.or_eq_true, beq_iff_eq,
      bne_iff_ne, List.mem_cons, List.not_mem_nil, or_false, imp_iff_not_or]
  rw [Date.isValid, decide_eq_true_eq, days, and_assoc]

section Dates

variable {s rest : List Char}

theorem dateText_of_date {day : Date} (h : date s = some (day, rest)) :
    ∃ w, s = w ++ rest ∧ DateText w day := by
  obtain ⟨⟨year, afterYear⟩, yearRead, h⟩ := Option.bind_eq_some_iff.mp h
  obtain ⟨monthOn, dash, h⟩ := Option.bind_eq_some_iff.mp h
  obtain ⟨⟨month, afterMonth⟩, monthRead, h⟩ := Option.bind_eq_some_iff.mp h
  obtain ⟨dayOn, dash', h⟩ := Option.bind_eq_some_iff.mp h
  obtain ⟨⟨number, afterDay⟩, dayRead, h⟩ := Option.bind_eq_some_iff.mp h
  obtain ⟨valid, same⟩ := Option.ite_none_right_eq_some.mp h
  cases same
  obtain ⟨y, rfl, hyear⟩ := fixedText_of_fixedDigits yearRead
  obtain ⟨m, rfl, hmonth⟩ := fixedText_of_fixedDigits monthRead
  obtain ⟨d, rfl, hday⟩ := fixedText_of_fixedDigits dayRead
  obtain ⟨inYear, inMonth⟩ := (isValid_iff _ _ _).mp valid
  cases (expect_eq_some_iff _ _ _).mp dash
  cases (expect_eq_some_iff _ _ _).mp dash'
  exact ⟨y ++ '-' :: (m ++ '-' :: d), by simp, .written hyear hmonth hday inYear inMonth⟩

theorem expect_self (c : Char) (s : List Char) : expect c (c :: s) = some s := if_pos rfl

theorem date_of_dateText {w : List Char} {day : Date} (h : DateText w day) (rest : List Char) :
    date (w ++ rest) = some (day, rest) := by
  obtain ⟨hyear, hmonth, hday, inYear, inMonth⟩ := h
  have valid := (isValid_iff _ _ _).mpr ⟨inYear, inMonth⟩
  simp [date, fixedDigits_of_fixedText hyear, fixedDigits_of_fixedText hmonth,
    fixedDigits_of_fixedText hday, expect_self, valid]

theorem nanoseconds_of_digits {digits : List Char} {ns : List Nat}
    (h : List.Forall₂ (IsDigit 10) digits ns) :
    nanoseconds digits = valueOf 10 (ns.take 9) * 10 ^ (9 - ns.length) := by
  have kept : (digits.take 9).length = min 9 ns.length := by
    rw [List.length_take, h.length_eq]
  have places : 9 - min 9 ns.length = 9 - ns.length := by omega
  rw [nanoseconds, numberOf_digits (List.forall₂_take 9 h), kept, places]
  rfl

theorem partText_of_fraction {n : Nat} (h : fraction s = (n, rest)) :
    ∃ w, s = w ++ rest ∧ PartText w n := by
  unfold fraction at h
  split at h
  next c s =>
    split at h
    next digit =>
      cases h
      have each : ∀ d ∈ c :: s.takeWhile (isDigitIn 10), isDigitIn 10 d = true :=
        List.forall_mem_cons.mpr ⟨digit, fun d member => List.mem_takeWhile_imp member⟩
      obtain ⟨ns, digits⟩ := digits_of_each each
      refine ⟨'.' :: c :: s.takeWhile (isDigitIn 10), ?_, ?_⟩
      · simp [List.takeWhile_append_dropWhile]
      · rw [nanoseconds_of_digits digits]
        refine .written digits ?_
        rintro rfl
        cases digits
    · cases h
      exact ⟨[], rfl, .none⟩
  · cases h
    exact ⟨[], rfl, .none⟩

def EndsTime (c : Char) : Prop := c ≠ '.' ∧ isDigitIn 10 c = false

theorem fraction_of_partText {w : List Char} {n : Nat} (h : PartText w n)
    (follows : Ahead EndsTime rest) : fraction (w ++ rest) = (n, rest) := by
  cases h with
  | none =>
    cases rest with
    | nil => rfl
    | cons c rest => simp [fraction, (ahead_cons.mp follows).1]
  | @written w ns digits some =>
    cases digits with
    | nil => exact absurd rfl some
    | @cons c n w ns first digits =>
      have digit := (isDigitIn_iff 10 c).mpr ⟨n, first⟩
      have each := each_of_digits digits
      have stops : Ahead (fun d => isDigitIn 10 d = false) rest := follows.imp fun _ => And.right
      have value := nanoseconds_of_digits (.cons first digits)
      simp only [List.cons_append, fraction, digit, if_true, List.takeWhile_append_of_pos each,
        List.dropWhile_append_of_pos each, takeWhile_of_ahead stops, dropWhile_of_ahead stops,
        List.append_nil, value]

theorem timeText_of_timeOfDay {clock : TimeOfDay} (h : timeOfDay s = some (clock, rest)) :
    ∃ w, s = w ++ rest ∧ TimeText w clock := by
  obtain ⟨⟨hour, afterHour⟩, hourRead, h⟩ := Option.bind_eq_some_iff.mp h
  obtain ⟨minuteOn, colon, h⟩ := Option.bind_eq_some_iff.mp h
  obtain ⟨⟨minute, afterMinute⟩, minuteRead, h⟩ := Option.bind_eq_some_iff.mp h
  obtain ⟨secondOn, colon', h⟩ := Option.bind_eq_some_iff.mp h
  obtain ⟨⟨second, afterSecond⟩, secondRead, h⟩ := Option.bind_eq_some_iff.mp h
  obtain ⟨nanosecond, last, parts⟩ : ∃ n last, fraction afterSecond = (n, last) := ⟨_, _, rfl⟩
  dsimp only at h
  rw [parts] at h
  obtain ⟨valid, same⟩ := Option.ite_none_right_eq_some.mp h
  cases same
  obtain ⟨hh, rfl, hourText⟩ := fixedText_of_fixedDigits hourRead
  obtain ⟨mm, rfl, minuteText⟩ := fixedText_of_fixedDigits minuteRead
  obtain ⟨ss, rfl, secondText⟩ := fixedText_of_fixedDigits secondRead
  obtain ⟨p, rfl, part⟩ := partText_of_fraction parts
  obtain ⟨inDay, inHour, inMinute⟩ := decide_eq_true_iff.mp valid
  cases (expect_eq_some_iff _ _ _).mp colon
  cases (expect_eq_some_iff _ _ _).mp colon'
  exact ⟨hh ++ ':' :: (mm ++ ':' :: (ss ++ p)), by simp,
    .written hourText minuteText secondText part inDay inHour inMinute⟩

theorem timeOfDay_of_timeText {w : List Char} {clock : TimeOfDay} (h : TimeText w clock)
    (follows : Ahead EndsTime rest) : timeOfDay (w ++ rest) = some (clock, rest) := by
  obtain ⟨hour, minute, second, part, inDay, inHour, inMinute⟩ := h
  simp [timeOfDay, fixedDigits_of_fixedText hour, fixedDigits_of_fixedText minute,
    fixedDigits_of_fixedText second, expect_self, fraction_of_partText part follows, TimeOfDay.isValid,
    inDay, inHour, inMinute]

theorem offsetText_of_offset? {offset : Offset} (h : offset? s = some (offset, rest)) :
    ∃ w, s = w ++ rest ∧ OffsetText w offset := by
  unfold offset? at h
  split at h
  · cases h
    exact ⟨['Z'], rfl, .universal (.inl rfl)⟩
  · cases h
    exact ⟨['z'], rfl, .universal (.inr rfl)⟩
  next c s _ _ =>
    obtain ⟨mark, h⟩ := Option.ite_none_right_eq_some.mp h
    obtain ⟨⟨hour, afterHour⟩, hourRead, h⟩ := Option.bind_eq_some_iff.mp h
    obtain ⟨minuteOn, colon, h⟩ := Option.bind_eq_some_iff.mp h
    obtain ⟨⟨minute, afterMinute⟩, minuteRead, h⟩ := Option.bind_eq_some_iff.mp h
    obtain ⟨⟨inDay, inHour⟩, same⟩ := Option.ite_none_right_eq_some.mp h
    cases same
    obtain ⟨hh, rfl, hourText⟩ := fixedText_of_fixedDigits hourRead
    obtain ⟨mm, rfl, minuteText⟩ := fixedText_of_fixedDigits minuteRead
    cases (expect_eq_some_iff _ _ _).mp colon
    refine ⟨c :: (hh ++ ':' :: mm), by simp, ?_⟩
    rcases mark with rfl | rfl
    · exact .east hourText minuteText inDay inHour
    · exact .west hourText minuteText inDay inHour
  · cases h

theorem offset?_of_offsetText {w : List Char} {offset : Offset} (h : OffsetText w offset)
    (rest : List Char) : offset? (w ++ rest) = some (offset, rest) := by
  cases h with
  | universal mark => rcases mark with rfl | rfl <;> rfl
  | east hour minute inDay inHour =>
    simp [offset?, fixedDigits_of_fixedText hour, fixedDigits_of_fixedText minute, expect_self,
      inDay, inHour]
  | west hour minute inDay inHour =>
    simp [offset?, fixedDigits_of_fixedText hour, fixedDigits_of_fixedText minute, expect_self,
      inDay, inHour]

theorem offset?_of_ends (h : Ends s) : offset? s = none := by
  cases s with
  | nil => rfl
  | cons c s =>
    have follows : Ahead (· ∉ ['Z', 'z', '+', '-']) (c :: s) :=
      h.ahead (by rintro c (rfl | rfl) <;> decide) (List.all_iff_forall_prop.mp rfl)
    have other := ahead_cons.mp follows
    simp only [List.mem_cons, List.not_mem_nil, or_false, not_or] at other
    simp [offset?, other]

theorem momentText_of_afterDate {d : List Char} {day : Date} {moment : Moment}
    (date : DateText d day) (h : afterDate day s = (moment, rest)) :
    ∃ w, s = w ++ rest ∧ MomentText (d ++ w) moment := by
  unfold afterDate at h
  split at h
  next c s =>
    split at h
    · cases h
      exact ⟨[], rfl, by rw [List.append_nil]; exact .date date⟩
    next clock after timed =>
      obtain ⟨mark, read⟩ := Option.ite_none_right_eq_some.mp timed
      have between : c = 'T' ∨ c = 't' ∨ c = ' ' := by simpa [isTimeMark, or_assoc] using mark
      obtain ⟨t, rfl, time⟩ := timeText_of_timeOfDay read
      split at h
      · cases h
        exact ⟨c :: t, rfl, .both date between time⟩
      next offset =>
        cases h
        obtain ⟨o, rfl, behind⟩ := offsetText_of_offset? offset
        exact ⟨c :: (t ++ o), by simp, .instant date between time behind⟩
  · cases h
    exact ⟨[], rfl, by rw [List.append_nil]; exact .date date⟩

theorem momentText_of_moment {value : Moment} (h : moment s = some (value, rest)) :
    ∃ w, s = w ++ rest ∧ MomentText w value := by
  unfold moment at h
  split at h
  next day after read =>
    obtain ⟨d, rfl, date⟩ := dateText_of_date read
    obtain ⟨w, rfl, text⟩ := momentText_of_afterDate date (Option.some.inj h)
    exact ⟨d ++ w, by simp, text⟩
  · obtain ⟨⟨clock, after⟩, read, same⟩ := Option.map_eq_some_iff.mp h
    cases same
    obtain ⟨w, rfl, time⟩ := timeText_of_timeOfDay read
    exact ⟨w, rfl, .time time⟩

theorem Ends.endsTime (h : Ends s) : Ahead EndsTime s := by
  refine h.ahead ?_ ?_
  · rintro c (rfl | rfl) <;> exact ⟨by decide, rfl⟩
  · simp [closers, EndsTime, isDigitIn, digitValue?]

theorem Grammar.OffsetText.begins {w : List Char} {offset : Offset} (h : OffsetText w offset) :
    Begins EndsTime w := by
  cases h with
  | universal mark => rcases mark with rfl | rfl <;> exact begins_cons ⟨by decide, rfl⟩ _
  | east => exact begins_cons ⟨by decide, rfl⟩ _
  | west => exact begins_cons ⟨by decide, rfl⟩ _

theorem timeOfDay_of_ahead (h : Ahead (fun c => isDigitIn 10 c = false) s) : timeOfDay s = none := by
  have few := fixedDigits_of_fewer (w := []) (by decide : 0 < 2) h
  rw [List.nil_append] at few
  rw [timeOfDay, few]
  rfl

theorem afterDate_of_ends (day : Date) (h : Ends s) : afterDate day s = (.date day, s) := by
  cases s with
  | nil => rfl
  | cons c s =>
    by_cases space : c = ' '
    · subst space
      have later : Ends s := h
      have noTime := timeOfDay_of_ahead (later.endsTime.imp fun _ => And.right)
      simp [afterDate, noTime]
    · have follows : Ahead (fun c => c = ' ' ∨ c ∉ ['T', 't']) (c :: s) :=
        h.ahead (by rintro c (rfl | rfl) <;> decide) (List.all_iff_forall_prop.mp rfl)
      have other := (ahead_cons.mp follows).resolve_left space
      simp only [List.mem_cons, List.not_mem_nil, or_false, not_or] at other
      simp [afterDate, isTimeMark, space, other]

theorem isTimeMark_of {c : Char} (h : c = 'T' ∨ c = 't' ∨ c = ' ') : isTimeMark c = true := by
  rcases h with rfl | rfl | rfl <;> rfl

theorem moment_of_momentText {w : List Char} {value : Moment} (h : MomentText w value)
    (ends : Ends rest) : moment (w ++ rest) = some (value, rest) := by
  cases h with
  | date date =>
    rw [moment, date_of_dateText date]
    exact congrArg some (afterDate_of_ends _ ends)
  | time time =>
    have timed := timeOfDay_of_timeText time ends.endsTime
    have noDate : date (w ++ rest) = none := by
      obtain ⟨⟨_, length⟩, _, _, _, _, _, _⟩ := time
      have colon : isDigitIn 10 ':' = false := rfl
      rw [List.append_assoc, List.cons_append, date,
        fixedDigits_of_fewer (length.trans_lt (by decide)) (ahead_cons.mpr colon)]
      rfl
    rw [moment, noDate, timed]
    rfl
  | both date between time =>
    have timed := timeOfDay_of_timeText time ends.endsTime
    simp [moment, date_of_dateText date, afterDate, isTimeMark_of between, timed,
      offset?_of_ends ends]
  | instant date between time offset =>
    have timed := timeOfDay_of_timeText time (offset.begins rest)
    simp [moment, date_of_dateText date, afterDate, isTimeMark_of between, timed,
      offset?_of_offsetText offset]

end Dates

end UrlHandoff.Document

namespace UrlHandoff.Url.Punycode

def digitChar (n : Nat) : Char :=
  if n < 26 then Char.ofNat ('a'.toNat + n) else Char.ofNat ('0'.toNat + (n - 26))

def digitValue? (c : Char) : Option Nat :=
  if 'a' ≤ c ∧ c ≤ 'z' then some (c.toNat - 'a'.toNat)
  else if 'A' ≤ c ∧ c ≤ 'Z' then some (c.toNat - 'A'.toNat)
  else if '0' ≤ c ∧ c ≤ '9' then some (c.toNat - '0'.toNat + 26)
  else none

def threshold (position bias : Nat) : Nat := min 26 (max 1 (position - bias))

theorem threshold_pos (position bias : Nat) : 1 ≤ threshold position bias := by
  simp only [threshold]
  omega

def digits (bias position n : Nat) : List Char :=
  let t := threshold position bias
  if n < t then [digitChar n]
  else digitChar (t + (n - t) % (36 - t)) :: digits bias (position + 36) ((n - t) / (36 - t))
termination_by n
decreasing_by
  have ht := threshold_pos position bias
  have hle := Nat.div_le_self (n - threshold position bias) (36 - threshold position bias)
  omega

def shrink (delta steps : Nat) : Nat :=
  if delta > 455 then shrink (delta / 35) (steps + 36)
  else steps + 36 * delta / (delta + 38)
termination_by delta
decreasing_by omega

def adapt (delta count : Nat) (first : Bool) : Nat :=
  let delta := if first then delta / 700 else delta / 2
  shrink (delta + delta / count) 0

structure Writer where
  output : List Char
  delta : Nat
  bias : Nat
  handled : Nat

def place (point basic : Nat) (label : List Char) (writer : Writer) : Writer :=
  label.foldl
    (fun writer c =>
      if c.toNat < point then { writer with delta := writer.delta + 1 }
      else if c.toNat = point then
        { output := writer.output ++ digits writer.bias 36 writer.delta
          delta := 0
          bias := adapt writer.delta (writer.handled + 1) (writer.handled = basic)
          handled := writer.handled + 1 }
      else writer)
    writer

def placeAll (basic : Nat) (label : List Char) (next : Nat) : List Nat → Writer → Writer
  | [], writer => writer
  | point :: rest, writer =>
    let jumped := { writer with delta := writer.delta + (point - next) * (writer.handled + 1) }
    let placed := place point basic label jumped
    placeAll basic label (point + 1) rest { placed with delta := placed.delta + 1 }

def encode (label : List Char) : List Char :=
  let basic := label.filter (·.toNat < 0x80)
  let points := ((label.filter (0x80 ≤ ·.toNat)).map Char.toNat).mergeSort.eraseDups
  let start : Writer :=
    ⟨if basic = [] then [] else basic ++ ['-'], 0, 72, basic.length⟩
  (placeAll basic.length label 0x80 points start).output

def number (bias : Nat) : Nat → Nat → Nat → List Char → Option (Nat × List Char)
  | _, _, _, [] => none
  | position, weight, value, c :: rest =>
    (digitValue? c).bind fun digit =>
      let t := threshold position bias
      let value := value + digit * weight
      if digit < t then some (value, rest)
      else number bias (position + 36) (weight * (36 - t)) value rest

theorem number_length {bias position weight value : Nat} {s : List Char} {result : Nat × List Char}
    (h : number bias position weight value s = some result) : result.2.length < s.length := by
  induction s generalizing position weight value with
  | nil => simp [number] at h
  | cons c rest ih =>
    simp only [number] at h
    obtain ⟨digit, _, h⟩ := Option.bind_eq_some_iff.mp h
    split at h
    · simp_all [← Option.some.inj h]
    · have := ih h
      simp only [List.length_cons]
      omega

def insertAll (point index bias : Nat) (output : List Char) (s : List Char) : Option (List Char) :=
  if s = [] then some output
  else
    match h : number bias 36 1 index s with
    | none => none
    | some (sum, rest) =>
      have : rest.length < s.length := number_length h
      let count := output.length + 1
      let nextPoint := point + sum / count
      let spot := sum % count
      if nextPoint.isValidChar then
        insertAll nextPoint (spot + 1) (adapt (sum - index) count (index = 0))
          (output.take spot ++ Char.ofNat nextPoint :: output.drop spot) rest
      else none
termination_by s.length

/-- The ASCII characters stand before the last hyphen. Where there are none, there is no hyphen. -/
def decode (s : List Char) : Option (List Char) :=
  let jumps := (s.reverse.takeWhile (· ≠ '-')).reverse
  let basic := s.take (s.length - jumps.length - 1)
  if s.all (·.toNat < 0x80) then insertAll 0x80 0 72 basic (if basic = [] then s else jumps)
  else none

end UrlHandoff.Url.Punycode

/-!
# Labels in ASCII

A label with other characters is written in ASCII: first its ASCII characters, then numbers
that say which other characters to put in, in the order of their code points, and where. A
number counts the possible insertions from one to the next: the places in the text so far for
the current code point, then those for the next code point, and so on. Numbers are written in
base 36, with the lower digits first; how many values end a number at each digit depends on
the numbers before.
-/
namespace ModuleArchive.Url.Domain.Punycode

/-! ### Digits -/

/-- The character of a digit: letters, then decimal digits. -/
def digitChar (d : Nat) : Char :=
  if d < 26 then .ofNat ('a'.toNat + d) else .ofNat ('0'.toNat + (d - 26))

def digitValue? (c : Char) : Option Nat :=
  if 'a' ≤ c ∧ c ≤ 'z' then some (c.toNat - 'a'.toNat)
  else if 'A' ≤ c ∧ c ≤ 'Z' then some (c.toNat - 'A'.toNat)
  else if '0' ≤ c ∧ c ≤ '9' then some (c.toNat - '0'.toNat + 26)
  else none

def base : Nat := 36

/-- The smallest digit at a place that does not end a number. Places count in steps of the
base. -/
def threshold (bias place : Nat) : Nat := max 1 (min 26 (place - bias))

theorem one_le_threshold (bias place : Nat) : 1 ≤ threshold bias place := by
  simp only [threshold]
  omega

/-- The digits of a number from a place on. -/
def writeNumber (bias place n : Nat) : List Char :=
  let t := threshold bias place
  if n < t then [digitChar n]
  else
    digitChar (t + (n - t) % (base - t)) ::
      writeNumber bias (place + base) ((n - t) / (base - t))
termination_by n
decreasing_by
  have := one_le_threshold bias place
  have := Nat.div_le_self (n - threshold bias place) (base - threshold bias place)
  omega

/-- Read a number from a place on, whose digits count `weight` there, and what follows it. -/
def readNumber? (bias place weight : Nat) : List Char → Option (Nat × List Char)
  | [] => none
  | c :: rest =>
    match digitValue? c with
    | none => none
    | some d =>
      let t := threshold bias place
      if d < t then some (d * weight, rest)
      else
        (readNumber? bias (place + base) (weight * (base - t)) rest).map fun (n, rest) =>
          (d * weight + n, rest)

theorem length_readNumber? {bias place weight n : Nat} {text rest : List Char}
    (h : readNumber? bias place weight text = some (n, rest)) : rest.length < text.length := by
  induction text generalizing place weight n with
  | nil => simp [readNumber?] at h
  | cons c text ih =>
    simp only [readNumber?] at h
    split at h
    · simp at h
    · split at h
      · simp_all
      · obtain ⟨⟨m, r⟩, hm, he⟩ := Option.map_eq_some_iff.1 h
        obtain ⟨-, rfl⟩ := Prod.mk.inj he
        exact Nat.lt_succ_of_lt (ih hm)

/-! ### The bias -/

/-- The bias before the first number. -/
def firstBias : Nat := 72

/-- Scale a number down to the range of one digit, counting the divisions in steps of the
base. -/
def scaleDown (n steps : Nat) : Nat :=
  if n ≤ 455 then steps + base * n / (n + 38) else scaleDown (n / 35) (steps + base)
termination_by n
decreasing_by omega

/-- The bias after a number, when the text has `length` characters. -/
def adapt (n length : Nat) (isFirst : Bool) : Nat :=
  let n := if isFirst then n / 700 else n / 2
  scaleDown (n + n / length) 0

/-! ### Writing -/

/-- Where a run of insertions stands. -/
structure State where
  /-- The current code point. -/
  code : Nat := 0x80
  /-- The next place for it. -/
  place : Nat := 0
  /-- The length of the text so far. -/
  length : Nat
  bias : Nat := firstBias
  isFirst : Bool := true

/-- The characters to put in, in order, each one with its place in the text so far. -/
def insertions (text : List Char) : List (Char × Nat) :=
  let others := text.zipIdx.filter fun (c, _) => 0x80 ≤ c.toNat
  let ordered := others.mergeSort fun (c, _) (d, _) => c.toNat ≤ d.toNat
  ordered.map fun (c, i) => (c, (text.take i).countP fun d => d.toNat ≤ c.toNat)

def writeInsertions : State → List (Char × Nat) → List Char
  | _, [] => []
  | s, (c, place) :: rest =>
    let n := (c.toNat - s.code) * (s.length + 1) + place - s.place
    writeNumber s.bias base n ++
      writeInsertions
        ⟨c.toNat, place + 1, s.length + 1, adapt n (s.length + 1) s.isFirst, false⟩ rest

/-- The ASCII form of a text. -/
def encode (text : List Char) : List Char :=
  let plain := text.filter fun c => c.toNat < 0x80
  plain ++ (if plain.isEmpty then [] else ['-']) ++
    writeInsertions { length := plain.length } (insertions text)

/-! ### Reading -/

/-- Put the characters that some numbers name into a text. -/
def readInsertions? (s : State) (text digits : List Char) : Option (List Char) :=
  match digits with
  | [] => some text
  | c :: digits =>
    match h : readNumber? s.bias base 1 (c :: digits) with
    | none => none
    | some (n, rest) =>
      let count := s.place + n
      let code := s.code + count / (text.length + 1)
      let place := count % (text.length + 1)
      if ¬code.isValidChar then none
      else
        have := length_readNumber? h
        readInsertions?
          ⟨code, place + 1, text.length + 1, adapt n (text.length + 1) s.isFirst, false⟩
          (text.insertIdx place (.ofNat code)) rest
termination_by digits.length
decreasing_by exact this

/-- The text with an ASCII form. -/
def decode? (form : List Char) : Option (List Char) :=
  let last := (form.reverse.takeWhile (· ≠ '-')).reverse
  let plain := form.take (form.length - last.length - 1)
  let digits := if plain.isEmpty then form else last
  if 0x80 ≤ (plain.map Char.toNat).max?.getD 0 then none
  else readInsertions? { length := plain.length } plain digits

end ModuleArchive.Url.Domain.Punycode

import MediaProxy.Text.Basic

/-!
# Any text in letters, digits and hyphens

A text is written in ASCII in two parts. Its own ASCII characters come first, as they are, with a
hyphen behind them if there are any. Then the others are put in their places, in the order of their
code points: each is given by a number that counts the steps to it from the one before, a step being
one place further or, after the last place, one code point further.

A number is written in digits of base 36, the letters first, the lowest digit first. Every digit has
a threshold, and one below it is the last of its number. The thresholds follow the numbers that were
written before: small after small ones.

Reading refuses what no text is written as, among it a number of more than 32 bits.
-/

namespace MediaProxy.Domain.Punycode

/-! ## Digits and thresholds -/

/-- The digit of a value below 36. -/
def digit (value : Nat) : Char := Char.ofNat (if value < 26 then value + 97 else value + 22)

/-- The value of a digit; letters are in lower case. -/
def digitValue? (c : Char) : Option Nat :=
  if c.isLower then some (c.toNat - 97) else if c.isDigit then some (c.toNat - 22) else none

/-- The threshold of the digit at `place`, which counts in steps of 36: how far the place is beyond
the bias, but at least 1 and at most 26. -/
def threshold (bias place : Nat) : Nat := max 1 (min 26 (place - bias))

/-- The bias that belongs to a number of steps that has been brought to scale. -/
def settle (steps bias : Nat) : Nat :=
  if 455 < steps then settle (steps / 35) (bias + 36) else bias + 36 * steps / (steps + 38)
termination_by steps

/-- The bias after a number of steps, the first of all or a later one, that has brought a text to a
length. -/
def adapt (first : Bool) (steps length : Nat) : Nat :=
  let steps := if first then steps / 700 else steps / 2
  settle (steps + steps / length) 0

/-- The code point from which the steps are counted. -/
def firstCode : Nat := 0x80

def firstBias : Nat := 72

/-! ## Writing -/

/-- A number in digits, the first of which stands at `place`. -/
def encodeNumber (bias place n : Nat) : Text :=
  let t := threshold bias place
  if n < t then [digit n]
  else digit (t + (n - t) % (36 - t)) :: encodeNumber bias (place + 36) ((n - t) / (36 - t))
termination_by n
decreasing_by
  have positive : 1 ≤ threshold bias place := Nat.le_max_left ..
  exact Nat.lt_of_le_of_lt (Nat.div_le_self _ _) (by omega)

/-- How far the writing of a text has come. -/
structure Writing where
  /-- The steps since the last character that was written. -/
  steps : Nat
  bias : Nat
  /-- How many characters are written. -/
  written : Nat
  digits : Text

/-- Passes one character of the text while those of a code point are written. -/
def Writing.pass (basic code : Nat) (w : Writing) (c : Char) : Writing :=
  if c.toNat < code then { w with steps := w.steps + 1 }
  else if c.toNat = code then
    { steps := 0
      bias := adapt (w.written = basic) w.steps (w.written + 1)
      written := w.written + 1
      digits := w.digits ++ encodeNumber w.bias 36 w.steps }
  else w

/-- Writes the characters of some code points, in rising order; `next` is the one that the steps
have come to. -/
def Writing.passAll (t : Text) (basic : Nat) (next : Nat) (w : Writing) : List Nat → Writing
  | [] => w
  | code :: rest =>
    let reached := { w with steps := w.steps + (code - next) * (w.written + 1) }
    let passed := t.foldl (Writing.pass basic code) reached
    Writing.passAll t basic (code + 1) { passed with steps := passed.steps + 1 } rest

/-- The code points of a text beyond ASCII, each once and in rising order. -/
def codes (t : Text) : List Nat :=
  ((t.map Char.toNat).filter (firstCode ≤ ·)).mergeSort.eraseReps

/-- A text **written** in ASCII. -/
def encode (t : Text) : Text :=
  let basic := t.filter (·.toNat < firstCode)
  let start : Writing := ⟨0, firstBias, basic.length, []⟩
  basic ++ (if basic = [] then [] else ['-'])
    ++ (Writing.passAll t basic.length firstCode start (codes t)).digits

/-! ## Reading -/

/-- A number in digits added to `value`, and what follows it: the first digit stands at `place` and
counts `weight`. -/
def decodeNumber (bias place weight value : Nat) : Text → Option (Nat × Text)
  | [] => none
  | c :: rest =>
    match digitValue? c with
    | none => none
    | some d =>
      let t := threshold bias place
      let value := value + d * weight
      if UInt32.size ≤ value then none
      else if d < t then some (value, rest)
      else if UInt32.size ≤ weight * (36 - t) then none
      else decodeNumber bias (place + 36) (weight * (36 - t)) value rest

/-- A number takes a digit or more. -/
theorem decodeNumber_shorter {bias place weight value n : Nat} {t rest : Text}
    (h : decodeNumber bias place weight value t = some (n, rest)) : rest.length < t.length := by
  induction t generalizing place weight value with
  | nil => simp [decodeNumber] at h
  | cons c t ih =>
    rw [decodeNumber] at h
    split at h
    · simp at h
    · simp only at h
      split at h
      · simp at h
      · split at h
        · obtain ⟨-, rfl⟩ := h
          simp
        · split at h
          · simp at h
          · have := ih h
            simp only [List.length_cons]
            omega

/-- Reads the numbers of a text and puts their characters in place: `code` and `place` are those
that the steps have come to. -/
def decodeNumbers (bias code place : Nat) (done : Text) (digits : Text) : Option Text :=
  match digits with
  | [] => some done
  | d :: ds =>
    match _h : decodeNumber bias 36 1 place (d :: ds) with
    | none => none
    | some (reached, rest) =>
      let length := done.length + 1
      let code := code + reached / length
      if code.isValidChar then
        decodeNumbers (adapt (place = 0) (reached - place) length) code (reached % length + 1)
          (done.insertIdx (reached % length) (Char.ofNat code)) rest
      else none
termination_by digits.length
decreasing_by exact decodeNumber_shorter (by assumption)

/-- The text that is **written** in some letters, digits and hyphens. -/
def decode? (t : Text) : Option Text :=
  match Text.cutAtLast '-' t with
  | some (basic@(_ :: _), digits) => decodeNumbers firstBias firstCode 0 basic digits
  | _ => decodeNumbers firstBias firstCode 0 [] t

end MediaProxy.Domain.Punycode

/-!
# Punycode

A label with characters beyond ASCII is written as its ASCII characters, a hyphen, and letters and
digits that say which other characters stand where. Each insertion is a number in a mixed base
whose thresholds adapt to the numbers before it.
-/

namespace ExecutorRegistration.Url.Punycode

/-- The value of a letter or digit: letters first, then digits. -/
def digitValue? (c : Char) : Option Nat :=
  if 'a' ≤ c ∧ c ≤ 'z' then some (c.toNat - 97)
  else if 'A' ≤ c ∧ c ≤ 'Z' then some (c.toNat - 65)
  else if '0' ≤ c ∧ c ≤ '9' then some (c.toNat - 22)
  else none

/-- The letter or digit of a value below thirty-six. -/
def digit (value : Nat) : Char :=
  if value < 26 then Char.ofNat (97 + value) else Char.ofNat (22 + value)

/-- The part of a bias that comes from the size of a number. -/
def scaleDown (delta base : Nat) : Nat :=
  if 455 < delta then scaleDown (delta / 35) (base + 36)
  else base + 36 * delta / (delta + 38)
termination_by delta
decreasing_by omega

/-- The bias behind a number that led to `length` characters. -/
def adapt (delta length : Nat) (first : Bool) : Nat :=
  let damped := if first then delta / 700 else delta / 2
  scaleDown (damped + damped / length) 0

/-- The threshold of the digit with weight index `k`. -/
def threshold (k bias : Nat) : Nat :=
  if k ≤ bias + 1 then 1 else if bias + 26 ≤ k then 26 else k - bias

/-- The state of a decoder. -/
structure Decoder where
  /-- The code of the next inserted character. -/
  code : Nat := 128
  /-- The place of the next insertion, and within a number its value so far. -/
  place : Nat := 0
  /-- The bias. -/
  bias : Nat := 72
  /-- The characters so far. -/
  output : List Char
  /-- The place before the open number. -/
  start : Nat := 0
  /-- The weight of the next digit. -/
  weight : Nat := 1
  /-- The index of the weight; between numbers it is thirty-six. -/
  index : Nat := 36

/-- Whether a number is the code of a character. -/
def isCode (code : Nat) : Bool := code < 0xD800 || (0xDFFF < code && code < 0x110000)

/-- Takes one digit. -/
def Decoder.step? (decoder : Decoder) (c : Char) : Option Decoder := do
  let value ← digitValue? c
  let place := decoder.place + value * decoder.weight
  if UInt32.size ≤ place then none
  else
    let limit := threshold decoder.index decoder.bias
    if value < limit then
      let length := decoder.output.length + 1
      let code := decoder.code + place / length
      let target := place % length
      if isCode code then
        some {
          code
          place := target + 1
          bias := adapt (place - decoder.start) length (decoder.start = 0)
          output := decoder.output.take target ++ Char.ofNat code :: decoder.output.drop target
          start := target + 1 }
      else none
    else
      let weight := decoder.weight * (36 - limit)
      if weight < UInt32.size then
        some { decoder with place, weight, index := decoder.index + 36 }
      else none

/-- The characters before the last hyphen and those behind it, if there are characters before it;
without such a hyphen all characters stand behind. -/
def splitAtLastHyphen (text : List Char) : List Char × List Char :=
  let behind := (text.reverse.takeWhile (· ≠ '-')).reverse
  let front := text.take (text.length - behind.length - 1)
  if behind.length + 1 < text.length then (front, behind) else ([], text)

/-- The characters that a text stands for. -/
def decode? (text : List Char) : Option (List Char) := do
  let (front, behind) := splitAtLastHyphen text
  let decoder ← behind.foldlM Decoder.step? { output := front }
  if decoder.index = 36 then some decoder.output else none

/-- The digits of a number; `limit` bounds their count. -/
def digits (bias : Nat) : (limit k value : Nat) → List Char
  | 0, _, _ => []
  | limit + 1, k, value =>
    let least := threshold k bias
    if value < least then [digit value]
    else
      digit (least + (value - least) % (36 - least)) ::
        digits bias limit (k + 36) ((value - least) / (36 - least))

/-- The state of an encoder. -/
structure Encoder where
  /-- How many characters are written. -/
  written : Nat
  /-- Whether only ASCII characters are written so far. -/
  first : Bool := true
  /-- The number that leads to the next insertion. -/
  delta : Nat := 0
  /-- The bias. -/
  bias : Nat := 72
  /-- The text so far. -/
  output : List Char

/-- Passes a character while those with a code are written. -/
def Encoder.pass (code : Nat) (encoder : Encoder) (c : Char) : Encoder :=
  if c.toNat < code then { encoder with delta := encoder.delta + 1 }
  else if c.toNat = code then
    { written := encoder.written + 1
      first := false
      delta := 0
      bias := adapt encoder.delta (encoder.written + 1) encoder.first
      output := encoder.output ++ digits encoder.bias 64 36 encoder.delta }
  else encoder

/-- The distinct codes beyond ASCII, ascending. -/
def codesBeyondAscii (text : List Char) : List Nat :=
  ((text.map Char.toNat).filter (128 ≤ ·)).mergeSort.eraseDups

/-- The text that stands for characters. -/
def encode (text : List Char) : List Char :=
  let ascii := text.filter fun c => c.toNat < 128
  let start : Encoder :=
    { written := ascii.length, output := if ascii = [] then [] else ascii ++ ['-'] }
  let (_, encoder) := (codesBeyondAscii text).foldl
    (fun (next, encoder) code =>
      let moved := { encoder with
        delta := encoder.delta + (code - next) * (encoder.written + 1) }
      let passed := text.foldl (Encoder.pass code) moved
      (code + 1, { passed with delta := passed.delta + 1 }))
    (128, start)
  encoder.output

end ExecutorRegistration.Url.Punycode

import HttpExchange.Text.Basic

/-! UTF-8. `encode` writes the octets of a text. Reading goes one octet at a
time through `State`, what is still owed to the character that has begun:
`decode` puts one U+FFFD for every longest beginning of a sequence that cannot
be continued, and `validate` stops at the first such place and says where it
is. -/

namespace HttpExchange.Utf8

/-- The character that stands for octets that no character is written as. -/
def replacement : Char := '\uFFFD'

/-- The octets of one character: one below U+0080, two below U+0800, three
below U+10000, else four. -/
def encodeChar (c : Char) : Bytes :=
  let n := c.toNat
  if n < 0x80 then [.ofNat n]
  else if n < 0x800 then [.ofNat (0xC0 + n / 64), .ofNat (0x80 + n % 64)]
  else if n < 0x10000 then
    [.ofNat (0xE0 + n / 4096), .ofNat (0x80 + n / 64 % 64),
     .ofNat (0x80 + n % 64)]
  else
    [.ofNat (0xF0 + n / 262144), .ofNat (0x80 + n / 4096 % 64),
     .ofNat (0x80 + n / 64 % 64), .ofNat (0x80 + n % 64)]

/-- The octets of a text. -/
def encode (t : Text) : Bytes :=
  t.flatMap encodeChar

/-- The number of octets of one character. -/
def size (c : Char) : Nat :=
  (encodeChar c).length

/-- The number of octets of a text. -/
def length : Text → Nat
  | [] => 0
  | c :: rest => size c + length rest

/-- What is still owed to the character that has begun: how many octets, the
least and the greatest value the next one may have, and the number that the
octets read so far spell. Between characters nothing is owed. -/
structure State where
  owed : Nat
  low : Nat
  high : Nat
  value : Nat
  deriving DecidableEq, Repr

/-- Between characters. -/
def State.idle : State := ⟨0, 0, 0, 0⟩

/-- What the first octet of a character begins, or `none` when no character
begins with it. -/
def lead? (b : Nat) : Option State :=
  if b < 0x80 then some ⟨0, 0, 0, b⟩
  else if b < 0xC2 then none
  else if b < 0xE0 then some ⟨1, 0x80, 0xBF, b - 0xC0⟩
  else if b = 0xE0 then some ⟨2, 0xA0, 0xBF, 0⟩
  else if b = 0xED then some ⟨2, 0x80, 0x9F, 0xD⟩
  else if b < 0xF0 then some ⟨2, 0x80, 0xBF, b - 0xE0⟩
  else if b = 0xF0 then some ⟨3, 0x90, 0xBF, 0⟩
  else if b = 0xF4 then some ⟨3, 0x80, 0x8F, 4⟩
  else if b < 0xF4 then some ⟨3, 0x80, 0xBF, b - 0xF0⟩
  else none

/-- The state after a further octet of a character that has begun, or `none`
when the octet cannot follow. -/
def State.next? (s : State) (b : Nat) : Option State :=
  if s.low ≤ b ∧ b ≤ s.high then
    some ⟨s.owed - 1, 0x80, 0xBF, s.value * 64 + (b - 0x80)⟩
  else none

/-- The character of a finished sequence, and the state to go on with. -/
def State.settle (s : State) : Text × State :=
  if s.owed = 0 then ([Char.ofNat s.value], .idle) else ([], s)

/-- An octet between characters. -/
def begin (b : UInt8) : Text × State :=
  match lead? b.toNat with
  | some s => s.settle
  | none => ([replacement], .idle)

/-- One octet. An octet that cannot follow ends the sequence before it with one
U+FFFD and is then read afresh. -/
def step (s : State) (b : UInt8) : Text × State :=
  if s.owed = 0 then begin b
  else match s.next? b.toNat with
    | some s' => s'.settle
    | none =>
      let (out, s') := begin b
      (replacement :: out, s')

/-- The text that octets spell from a state on. A sequence cut off by the end
reads as one U+FFFD. -/
def decodeFrom : State → Bytes → Text
  | s, [] => if s.owed = 0 then [] else [replacement]
  | s, b :: rest =>
    let (out, s') := step s b
    out ++ decodeFrom s' rest

/-- The text that octets spell. -/
def decode (bytes : Bytes) : Text :=
  decodeFrom .idle bytes

/-- Why octets are not the written form of a text. -/
inductive Error where
  /-- The `size` octets from index `start` begin a character that the octet
  after them cannot continue, or are one octet that begins none. -/
  | invalid (size start : Nat)
  /-- The octets end within the character that begins at index `start`. -/
  | incomplete (start : Nat)
  deriving DecidableEq, Repr

/-- The wording of an error. -/
def Error.message : Error → Text
  | .invalid size start =>
    "invalid utf-8 sequence of ".toList ++ Text.ofNat size
      ++ " bytes from index ".toList ++ Text.ofNat start
  | .incomplete start =>
    "incomplete utf-8 byte sequence from index ".toList ++ Text.ofNat start

/-- The first error in octets read from state `s`, where the character under
way began at index `start` and the next octet has index `index`. -/
def firstError? : State → Nat → Nat → Bytes → Option Error
  | s, start, _, [] => if s.owed = 0 then none else some (.incomplete start)
  | s, start, index, b :: rest =>
    if s.owed = 0 then
      match lead? b.toNat with
      | some s' => firstError? s' index (index + 1) rest
      | none => some (.invalid 1 index)
    else match s.next? b.toNat with
      | some s' => firstError? s' start (index + 1) rest
      | none => some (.invalid (index - start) start)

/-- The text that octets spell, or the first error in them. -/
def validate (bytes : Bytes) : Except Error Text :=
  match firstError? .idle 0 0 bytes with
  | none => .ok (decode bytes)
  | some e => .error e

theorem size_pos (c : Char) : 0 < size c := by
  simp only [size, encodeChar]
  repeat' split
  all_goals simp

/-- An ASCII character is one octet. -/
theorem size_of_lt {c : Char} (h : c.toNat < 0x80) : size c = 1 := by
  simp [size, encodeChar, h]

@[simp] theorem length_nil : length [] = 0 := rfl

@[simp] theorem length_cons (c : Char) (t : Text) :
    length (c :: t) = size c + length t := rfl

@[simp] theorem length_append (t u : Text) :
    length (t ++ u) = length t + length u := by
  induction t with
  | nil => simp
  | cons c rest ih => simp [ih, Nat.add_assoc]

private theorem toNat_ofNat {k : Nat} (h : k < 256) :
    (UInt8.ofNat k).toNat = k := by
  simp [Nat.mod_eq_of_lt h]

/-- A first octet leaves what it begins. -/
theorem decodeFrom_lead {b : UInt8} {owed low high value : Nat}
    (h : lead? b.toNat = some ⟨owed + 1, low, high, value⟩) (rest : Bytes) :
    decodeFrom .idle (b :: rest) =
      decodeFrom ⟨owed + 1, low, high, value⟩ rest := by
  simp [decodeFrom, step, State.idle, begin, h, State.settle]

/-- An octet in the middle of a character adds six bits. -/
theorem decodeFrom_tail {b : UInt8} {owed low high value x : Nat}
    (hb : b.toNat = 0x80 + x) (hlow : low ≤ 0x80 + x) (hhigh : 0x80 + x ≤ high)
    (rest : Bytes) :
    decodeFrom ⟨owed + 2, low, high, value⟩ (b :: rest) =
      decodeFrom ⟨owed + 1, 0x80, 0xBF, value * 64 + x⟩ rest := by
  simp [decodeFrom, step, State.next?, hb, hlow, hhigh, State.settle]

/-- The last octet of a character yields it. -/
theorem decodeFrom_last {b : UInt8} {low high value x : Nat}
    (hb : b.toNat = 0x80 + x) (hlow : low ≤ 0x80 + x) (hhigh : 0x80 + x ≤ high)
    (rest : Bytes) :
    decodeFrom ⟨1, low, high, value⟩ (b :: rest) =
      Char.ofNat (value * 64 + x) :: decodeFrom .idle rest := by
  simp [decodeFrom, step, State.next?, hb, hlow, hhigh, State.settle]

/-- The first octet of a two-octet character. -/
private theorem lead?_two {x : Nat} (hlow : 2 ≤ x) (hhigh : x < 32) :
    lead? (0xC0 + x) = some ⟨1, 0x80, 0xBF, x⟩ := by
  simp only [lead?]
  rw [if_neg (by omega), if_neg (by omega), if_pos (by omega)]
  simp

/-- The first octet of a three-octet character leaves out the second octets of
shorter forms and of surrogates. -/
private theorem lead?_three {x y : Nat} (hx : x < 16) (hy : y < 64)
    (hshort : x = 0 → 32 ≤ y) (hsurrogate : x = 0xD → y < 32) :
    ∃ low high, lead? (0xE0 + x) = some ⟨2, low, high, x⟩ ∧
      low ≤ 0x80 + y ∧ 0x80 + y ≤ high := by
  by_cases ha : x = 0
  · subst ha
    exact ⟨0xA0, 0xBF, rfl, by omega, by omega⟩
  by_cases hb : x = 0xD
  · subst hb
    exact ⟨0x80, 0x9F, rfl, by omega, by omega⟩
  · refine ⟨0x80, 0xBF, ?_, by omega, by omega⟩
    simp only [lead?]
    rw [if_neg (by omega), if_neg (by omega), if_neg (by omega),
      if_neg (by omega), if_neg (by omega), if_pos (by omega)]
    simp

/-- The first octet of a four-octet character leaves out the second octets of
shorter forms and of numbers beyond U+10FFFF. -/
private theorem lead?_four {x y : Nat} (hx : x < 5) (hy : y < 64)
    (hshort : x = 0 → 16 ≤ y) (hlong : x = 4 → y < 16) :
    ∃ low high, lead? (0xF0 + x) = some ⟨3, low, high, x⟩ ∧
      low ≤ 0x80 + y ∧ 0x80 + y ≤ high := by
  by_cases ha : x = 0
  · subst ha
    exact ⟨0x90, 0xBF, rfl, by omega, by omega⟩
  by_cases hb : x = 4
  · subst hb
    exact ⟨0x80, 0x8F, rfl, by omega, by omega⟩
  · refine ⟨0x80, 0xBF, ?_, by omega, by omega⟩
    simp only [lead?]
    rw [if_neg (by omega), if_neg (by omega), if_neg (by omega),
      if_neg (by omega), if_neg (by omega), if_neg (by omega),
      if_neg (by omega), if_neg (by omega), if_pos (by omega)]
    simp

/-- Reading the octets of one character gives that character back. -/
theorem decodeFrom_encodeChar (c : Char) (rest : Bytes) :
    decodeFrom .idle (encodeChar c ++ rest) = c :: decodeFrom .idle rest := by
  have hc : Char.ofNat c.toNat = c := Char.ofNat_toNat c
  have hv : c.toNat < 0xD800 ∨ (0xDFFF < c.toNat ∧ c.toNat < 0x110000) :=
    c.valid
  simp only [encodeChar]
  generalize c.toNat = n at hc hv
  by_cases h1 : n < 0x80
  · have hb : (UInt8.ofNat n).toNat = n := toNat_ofNat (by omega)
    rw [if_pos h1]
    simp [decodeFrom, step, State.idle, begin, hb, lead?, h1, State.settle, hc]
  by_cases h2 : n < 0x800
  · rw [if_neg h1, if_pos h2]
    simp only [List.cons_append, List.nil_append]
    have hl := lead?_two (x := n / 64) (by omega) (by omega)
    rw [← toNat_ofNat (k := 0xC0 + n / 64) (by omega)] at hl
    rw [decodeFrom_lead hl,
      decodeFrom_last (toNat_ofNat (by omega)) (by omega) (by omega),
      show n / 64 * 64 + n % 64 = n by omega, hc]
  by_cases h3 : n < 0x10000
  · rw [if_neg h1, if_neg h2, if_pos h3]
    simp only [List.cons_append, List.nil_append]
    obtain ⟨low, high, hl, hlow, hhigh⟩ :=
      lead?_three (x := n / 4096) (y := n / 64 % 64) (by omega) (by omega)
        (by omega) (by omega)
    rw [← toNat_ofNat (k := 0xE0 + n / 4096) (by omega)] at hl
    rw [decodeFrom_lead hl,
      decodeFrom_tail (toNat_ofNat (by omega)) hlow hhigh,
      decodeFrom_last (toNat_ofNat (by omega)) (by omega) (by omega),
      show (n / 4096 * 64 + n / 64 % 64) * 64 + n % 64 = n by omega, hc]
  · rw [if_neg h1, if_neg h2, if_neg h3]
    simp only [List.cons_append, List.nil_append]
    obtain ⟨low, high, hl, hlow, hhigh⟩ :=
      lead?_four (x := n / 262144) (y := n / 4096 % 64) (by omega) (by omega)
        (by omega) (by omega)
    rw [← toNat_ofNat (k := 0xF0 + n / 262144) (by omega)] at hl
    rw [decodeFrom_lead hl,
      decodeFrom_tail (toNat_ofNat (by omega)) hlow hhigh,
      decodeFrom_tail (toNat_ofNat (by omega)) (by omega) (by omega),
      decodeFrom_last (toNat_ofNat (by omega)) (by omega) (by omega),
      show ((n / 262144 * 64 + n / 4096 % 64) * 64 + n / 64 % 64) * 64 + n % 64
        = n by omega, hc]

/-- Reading back what was written gives the text. -/
theorem decode_encode (t : Text) : decode (encode t) = t := by
  induction t with
  | nil => rfl
  | cons c rest ih =>
    rw [encode, List.flatMap_cons, decode, decodeFrom_encodeChar]
    exact congrArg (c :: ·) ih

end HttpExchange.Utf8

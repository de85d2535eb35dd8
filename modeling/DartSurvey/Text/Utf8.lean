/-! # UTF-8

Bytes are read one character at a time by `Utf8.next`: a well-formed character, or a `Fault` that
covers the longest start of a character the bytes agree with. `Utf8.decode` stops at the first fault
and reports where it lies; `Utf8.decodeWhole` leaves every fault out. `Utf8.encode` writes.
-/

namespace DartSurvey.Text.Utf8

/-- Why bytes are no character. -/
inductive Cause where
  /-- No character starts with this byte. -/
  | start
  /-- A byte that should carry a character on does not. -/
  | continuation
  /-- The bytes end inside a character. -/
  | ended
deriving DecidableEq

/-- Bytes that are no character: how many of them, and why. -/
structure Fault where
  size : Nat
  cause : Cause
deriving DecidableEq

/-- What stands at the start of a run of bytes. -/
inductive Item where
  | char (c : Char) (size : Nat)
  | fault (f : Fault)

/-- Whether a byte carries a character on. -/
def isContinuation (b : UInt8) : Bool := 0x80 ≤ b && b < 0xc0

/-- The low six bits of a byte. -/
def low (b : UInt8) : Nat := b.toNat % 64

/-- Whether a second byte can follow a first byte of three or four: the byte carries on, gives no longer
form of a shorter character, no surrogate and nothing above U+10FFFF. -/
def fitsLead (lead second : UInt8) : Bool :=
  isContinuation second
    && !(lead == 0xe0 && second < 0xa0) && !(lead == 0xed && 0xa0 ≤ second)
    && !(lead == 0xf0 && second < 0x90) && !(lead == 0xf4 && 0x90 ≤ second)

/-- The item at the start of the bytes `lead :: rest`. -/
def next (lead : UInt8) (rest : List UInt8) : Item :=
  if lead < 0x80 then .char (Char.ofNat lead.toNat) 1
  else if lead < 0xc2 then .fault ⟨1, .start⟩
  else if lead < 0xe0 then
    match rest with
    | [] => .fault ⟨1, .ended⟩
    | b :: _ =>
      if isContinuation b then .char (Char.ofNat (lead.toNat % 32 * 64 + low b)) 2
      else .fault ⟨1, .continuation⟩
  else if lead < 0xf0 then
    match rest with
    | [] => .fault ⟨1, .ended⟩
    | b :: rest =>
      if fitsLead lead b then
        match rest with
        | [] => .fault ⟨2, .ended⟩
        | c :: _ =>
          if isContinuation c then .char (Char.ofNat ((lead.toNat % 16 * 64 + low b) * 64 + low c)) 3
          else .fault ⟨2, .continuation⟩
      else .fault ⟨1, .continuation⟩
  else if lead < 0xf5 then
    match rest with
    | [] => .fault ⟨1, .ended⟩
    | b :: rest =>
      if fitsLead lead b then
        match rest with
        | [] => .fault ⟨2, .ended⟩
        | c :: rest =>
          if isContinuation c then
            match rest with
            | [] => .fault ⟨3, .ended⟩
            | d :: _ =>
              if isContinuation d then
                .char (Char.ofNat (((lead.toNat % 8 * 64 + low b) * 64 + low c) * 64 + low d)) 4
              else .fault ⟨3, .continuation⟩
          else .fault ⟨2, .continuation⟩
      else .fault ⟨1, .continuation⟩
  else .fault ⟨1, .start⟩

/-- The items of a run of bytes, each with its offset, which counts from `offset`. -/
def itemsFrom (offset : Nat) : List UInt8 → List (Nat × Item)
  | [] => []
  | lead :: rest =>
    let item := next lead rest
    let size := match item with
      | .char _ n => n
      | .fault f => f.size
    (offset, item) :: itemsFrom (offset + size) (rest.drop (size - 1))
termination_by bytes => bytes.length
decreasing_by simp only [List.length_drop, List.length_cons]; omega

/-- The items of a run of bytes, each with its offset. -/
def items (bytes : List UInt8) : List (Nat × Item) := itemsFrom 0 bytes

/-- A fault in a text: its offset in bytes, the bytes it covers, and why. -/
structure DecodeError where
  offset : Nat
  bytes : List UInt8
  cause : Cause
deriving DecidableEq

/-- The characters of well-formed bytes, or the first fault. -/
def decode (bytes : List UInt8) : Except DecodeError (List Char) :=
  go (items bytes)
where
  /-- Collects the characters up to the first fault. -/
  go : List (Nat × Item) → Except DecodeError (List Char)
    | [] => .ok []
    | (_, .char c _) :: rest => (go rest).map (c :: ·)
    | (offset, .fault f) :: _ => .error ⟨offset, (bytes.drop offset).take f.size, f.cause⟩

/-- The characters of the bytes, with every fault left out. -/
def decodeWhole (bytes : List UInt8) : List Char :=
  (items bytes).filterMap fun
    | (_, .char c _) => some c
    | (_, .fault _) => none

/-- The bytes of a character. -/
def encodeChar (c : Char) : List UInt8 :=
  let n := c.toNat
  if n < 0x80 then [n.toUInt8]
  else if n < 0x800 then [(0xc0 + n / 64).toUInt8, (0x80 + n % 64).toUInt8]
  else if n < 0x10000 then
    [(0xe0 + n / 4096).toUInt8, (0x80 + n / 64 % 64).toUInt8, (0x80 + n % 64).toUInt8]
  else
    [(0xf0 + n / 262144).toUInt8, (0x80 + n / 4096 % 64).toUInt8, (0x80 + n / 64 % 64).toUInt8,
      (0x80 + n % 64).toUInt8]

/-- The bytes of a text. -/
def encode (cs : List Char) : List UInt8 := cs.flatMap encodeChar

/-- The number of bytes of a text. -/
def size (cs : List Char) : Nat := (encode cs).length

/-- The words for a cause. -/
def Cause.message : Cause → String
  | .start => "invalid start byte"
  | .continuation => "invalid continuation byte"
  | .ended => "unexpected end of data"

/-- One hexadecimal digit, in lower case. -/
def hexDigit (n : Nat) : Char := if n < 10 then Char.ofNat (48 + n) else Char.ofNat (87 + n)

/-- Two hexadecimal digits of a byte. -/
def hexByte (b : UInt8) : String := String.ofList [hexDigit (b.toNat / 16), hexDigit (b.toNat % 16)]

/-- The words for a fault: one byte is named by its value, several by the offsets they span. -/
def DecodeError.message (e : DecodeError) : String :=
  let place := match e.bytes with
    | [b] => "byte 0x" ++ hexByte b ++ " in position " ++ toString e.offset
    | bs => "bytes in position " ++ toString e.offset ++ "-" ++ toString (e.offset + bs.length - 1)
  "'utf-8' codec can't decode " ++ place ++ ": " ++ e.cause.message

end DartSurvey.Text.Utf8

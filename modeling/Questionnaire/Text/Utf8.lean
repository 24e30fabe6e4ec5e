namespace Questionnaire.Text

/-!
# Text from bytes

Files and input are bytes.  They are text exactly when they are valid UTF-8; a reader that must
show them anyway puts the replacement character in place of each ill-formed piece.

- `ofUtf8?`: strict reading.
- `sequenceLength`: how many bytes a well-formed or truncated sequence takes.
- `ofUtf8Lossy`: reading with replacement characters.
-/

/-- The text that the bytes encode, if they are well formed. -/
def ofUtf8? (bytes : ByteArray) : Option String := String.fromUTF8? bytes

/-! ### Reading with replacement -/

/-- The number of bytes that a leading byte announces, with the bounds of the second byte;
    `none` for a byte that cannot lead. -/
def leadOf (b : UInt8) : Option (Nat × UInt8 × UInt8) :=
  if b < 0x80 then some (1, 0, 0)
  -- A character that `C0` or `C1` begins would fit into one byte.
  else if b < 0xC2 then none
  else if b < 0xE0 then some (2, 0x80, 0xBF)
  -- Some first bytes narrow the second one, so that no character is written too long, none is half
  -- of another one, and none is too large.
  else if b == 0xE0 then some (3, 0xA0, 0xBF)
  else if b == 0xED then some (3, 0x80, 0x9F)
  else if b < 0xF0 then some (3, 0x80, 0xBF)
  else if b == 0xF0 then some (4, 0x90, 0xBF)
  else if b < 0xF4 then some (4, 0x80, 0xBF)
  else if b == 0xF4 then some (4, 0x80, 0x8F)
  else none

/-- How many of the bytes, at most `want`, continue a sequence; the first must lie within
    `low` and `high`, the others within the general bounds. -/
def continuationCount (want : Nat) (low high : UInt8) : List UInt8 → Nat
  | [] => 0
  | b :: rest => match want with
    | 0 => 0
    | want + 1 => if low ≤ b && b ≤ high then continuationCount want 0x80 0xBF rest + 1 else 0

/-- The character that a complete sequence encodes. -/
def decodeSequence : List UInt8 → Char
  | [a] => Char.ofNat a.toNat
  | [a, b] => Char.ofNat ((a.toNat % 32) * 64 + b.toNat % 64)
  | [a, b, c] => Char.ofNat ((a.toNat % 16) * 4096 + (b.toNat % 64) * 64 + c.toNat % 64)
  | [a, b, c, d] => Char.ofNat
      ((a.toNat % 8) * 262144 + (b.toNat % 64) * 4096 + (c.toNat % 64) * 64 + d.toNat % 64)
  | _ => '\uFFFD'

/-- The characters of the bytes after `skip` more bytes of a sequence already read.  Each longest
    beginning of a sequence that is not completed becomes one replacement character. -/
def decodeLossy (skip : Nat) : List UInt8 → List Char
  | [] => []
  | b :: rest => match skip with
    | skip + 1 => decodeLossy skip rest
    | 0 => match leadOf b with
      -- A byte with which nothing begins, and a character that breaks off, are replaced once each.
      | none => '\uFFFD' :: decodeLossy 0 rest
      | some (size, low, high) =>
        let count := continuationCount (size - 1) low high rest
        let c := if count + 1 == size then decodeSequence (b :: rest.take count) else '\uFFFD'
        c :: decodeLossy count rest

/-- The text of the bytes, with a replacement character for each ill-formed piece. -/
def ofUtf8Lossy (bytes : ByteArray) : String :=
  match ofUtf8? bytes with
  | some s => s
  | none => String.ofList (decodeLossy 0 bytes.toList)

end Questionnaire.Text

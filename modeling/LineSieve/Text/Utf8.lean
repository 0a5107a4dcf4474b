/-!
# UTF-8

* `encode`: the bytes of a text.
* `decodeLossy`: the text that bytes stand for. Where they are not well formed, each longest
  sequence of bytes that begins a character without completing it, and each byte that begins
  none, becomes one replacement character.
-/

namespace LineSieve

abbrev Bytes := List UInt8

namespace Utf8

def encodeChars (cs : List Char) : Bytes := cs.flatMap String.utf8EncodeChar

def encode (s : String) : Bytes := encodeChars s.toList

def replacement : Char := '\ufffd'

/-- A byte that continues a character. -/
def isTail (b : UInt8) : Bool := 0x80 ≤ b && b ≤ 0xbf

/-- A character of three or four bytes narrows the range of its second byte, which keeps out
overlong forms, surrogates and what lies past the last code point. -/
def secondOk (first second : UInt8) : Bool :=
  if first = 0xe0 then 0xa0 ≤ second && second ≤ 0xbf
  else if first = 0xed then 0x80 ≤ second && second ≤ 0x9f
  else if first = 0xf0 then 0x90 ≤ second && second ≤ 0xbf
  else if first = 0xf4 then 0x80 ≤ second && second ≤ 0x8f
  else isTail second

/-- The number of bytes of a character with this first byte; zero if no character has it. -/
def width (first : UInt8) : Nat :=
  if first < 0x80 then 1
  else if 0xc2 ≤ first && first ≤ 0xdf then 2
  else if 0xe0 ≤ first && first ≤ 0xef then 3
  else if 0xf0 ≤ first && first ≤ 0xf4 then 4
  else 0

/-- The six bits that a continuing byte carries. -/
def tailBits (b : UInt8) : Nat := b.toNat % 64

/-- The character that begins with the byte `b`, and the bytes of `rest` after it. -/
def next (b : UInt8) (rest : Bytes) : Char × Bytes :=
  match width b, rest with
  | 1, _ => (Char.ofNat b.toNat, rest)
  | 2, t :: rest' =>
    if isTail t then (Char.ofNat ((b.toNat % 32) * 64 + tailBits t), rest') else (replacement, rest)
  | 3, t :: rest' =>
    if secondOk b t then
      match rest' with
      | u :: rest'' =>
        if isTail u then
          (Char.ofNat (((b.toNat % 16) * 64 + tailBits t) * 64 + tailBits u), rest'')
        else (replacement, rest')
      | [] => (replacement, rest')
    else (replacement, rest)
  | 4, t :: rest' =>
    if secondOk b t then
      match rest' with
      | u :: rest'' =>
        if isTail u then
          match rest'' with
          | v :: rest''' =>
            if isTail v then
              (Char.ofNat ((((b.toNat % 8) * 64 + tailBits t) * 64 + tailBits u) * 64 + tailBits v),
                rest''')
            else (replacement, rest'')
          | [] => (replacement, rest'')
        else (replacement, rest')
      | [] => (replacement, rest')
    else (replacement, rest)
  | _, _ => (replacement, rest)

theorem length_next_le (b : UInt8) (rest : Bytes) : (next b rest).2.length ≤ rest.length := by
  unfold next
  split <;> (repeat' split) <;> simp_all <;> omega

def decodeLossyChars (bs : Bytes) : List Char :=
  match bs with
  | [] => []
  | b :: rest => (next b rest).1 :: decodeLossyChars (next b rest).2
  termination_by bs.length
  decreasing_by
    have := length_next_le b rest
    simp only [List.length_cons]
    omega

def decodeLossy (bs : Bytes) : String := String.ofList (decodeLossyChars bs)

end Utf8

end LineSieve

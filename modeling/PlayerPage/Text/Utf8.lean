import PlayerPage.Text.Part

/-!
UTF-8 between characters and bytes.

* `encode`: the bytes of a text.
* `Step`, `step`: what stands at the front of a byte sequence: a character, the longest
  beginning of one that is never completed, or a byte that starts none.
* `decode`: the text of bytes, with U+FFFD for every such fault.
* `parts`: the characters and faults in bytes, with their places.
-/

namespace PlayerPage.Text.Utf8

/-- The bytes of a text. -/
def encode (s : List Char) : List UInt8 :=
  s.flatMap String.utf8EncodeChar

/-- What stands at the front of a byte sequence, with its number of bytes. -/
inductive Step where
  | char (c : Char) (size : Nat)
  | fault (reason : Reason) (size : Nat)

/-- The second bytes that can follow the first byte `b` of a character of more than two bytes. -/
def secondRange (b : UInt8) : UInt8 × UInt8 :=
  if b == 0xe0 then (0xa0, 0xbf)
  else if b == 0xed then (0x80, 0x9f)
  else if b == 0xf0 then (0x90, 0xbf)
  else if b == 0xf4 then (0x80, 0x8f)
  else (0x80, 0xbf)

/-- The bytes that continue a character. -/
def isTail (b : UInt8) : Bool :=
  0x80 ≤ b && b ≤ 0xbf

/-- The number that the first byte `lead` (of which the low bits below `2 ^ bits` count) and the
following bytes make up. -/
def number (bits : Nat) (lead : UInt8) (tail : List UInt8) : Nat :=
  tail.foldl (fun n b => n * 64 + b.toNat % 64) (lead.toNat % Nat.pow 2 bits)

/-- What stands at the front of `b :: rest`. A fault covers the longest beginning of a character
that it has. -/
def step (b : UInt8) (rest : List UInt8) : Step :=
  if b < 0x80 then .char (Char.ofNat b.toNat) 1
  else if b < 0xc2 || 0xf4 < b then .fault .startByte 1
  else if b < 0xe0 then
    match rest with
    | [] => .fault .endOfData 1
    | c :: _ =>
      if isTail c then .char (Char.ofNat (number 5 b [c])) 2 else .fault .continuationByte 1
  else
    let (low, high) := secondRange b
    match rest with
    | [] => .fault .endOfData 1
    | c :: rest =>
      if c < low || high < c then .fault .continuationByte 1
      else
        match rest with
        | [] => .fault .endOfData 2
        | d :: rest =>
          if !isTail d then .fault .continuationByte 2
          else if b < 0xf0 then .char (Char.ofNat (number 4 b [c, d])) 3
          else
            match rest with
            | [] => .fault .endOfData 3
            | e :: _ =>
              if isTail e then .char (Char.ofNat (number 3 b [c, d, e])) 4
              else .fault .continuationByte 3

/-- The text of `bytes`; the first `skip` bytes belong to what stands before them. -/
def decodeFrom (skip : Nat) : List UInt8 → List Char
  | [] => []
  | b :: rest =>
    match skip with
    | skip + 1 => decodeFrom skip rest
    | 0 =>
      match step b rest with
      | .char c size => c :: decodeFrom (size - 1) rest
      | .fault _ size => '\uFFFD' :: decodeFrom (size - 1) rest

/-- The text of bytes. Each fault becomes one U+FFFD. -/
def decode (bytes : List UInt8) : List Char :=
  decodeFrom 0 bytes

/-- Whether three bytes stand for half of a pair of code units. -/
def isHalf (b : UInt8) (rest : List UInt8) : Bool :=
  match rest with
  | c :: d :: _ => b == 0xed && 0xa0 ≤ c && c ≤ 0xbf && isTail d
  | _ => false

/-- The parts of `bytes` after the position `offset`; the first `skip` bytes belong to what stands
before them. -/
def partsFrom (offset skip : Nat) : List UInt8 → List Part
  | [] => []
  | b :: rest =>
    match skip with
    | skip + 1 => partsFrom (offset + 1) skip rest
    | 0 =>
      match step b rest with
      | .char c size => .char c :: partsFrom (offset + 1) (size - 1) rest
      | .fault reason size =>
        let fault : Fault := ⟨offset, offset + size, reason⟩
        if isHalf b rest then .half fault :: partsFrom (offset + 1) 2 rest
        else .broken fault :: partsFrom (offset + 1) (size - 1) rest

/-- The parts of bytes. -/
def parts (bytes : List UInt8) : List Part :=
  partsFrom 0 0 bytes

end PlayerPage.Text.Utf8

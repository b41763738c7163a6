import PlayerPage.Text.Part

/-!
UTF-16 and UTF-32, in both byte orders, to characters.

* `Order`: whether the high byte of a code unit comes first.
* `parts16`, `parts32`: the characters and faults in bytes, with their places.
-/

namespace PlayerPage.Text.Wide

/-- The order of the bytes of a code unit. -/
inductive Order where
  | high
  | low
  deriving DecidableEq, Repr

/-- The number of two bytes. -/
def unit16 (order : Order) (a b : UInt8) : Nat :=
  match order with
  | .high => a.toNat * 256 + b.toNat
  | .low => b.toNat * 256 + a.toNat

/-- The number of four bytes. -/
def unit32 (order : Order) (a b c d : UInt8) : Nat :=
  match order with
  | .high => unit16 order a b * 65536 + unit16 order c d
  | .low => unit16 order c d * 65536 + unit16 order a b

/-- Whether a code unit is the first half of a pair. -/
def isFirstHalf (n : Nat) : Bool :=
  0xd800 ≤ n && n < 0xdc00

/-- Whether a code unit is the second half of a pair. -/
def isSecondHalf (n : Nat) : Bool :=
  0xdc00 ≤ n && n < 0xe000

/-- The character that two halves make up. -/
def joined (n m : Nat) : Char :=
  Char.ofNat (0x10000 + (n - 0xd800) * 0x400 + (m - 0xdc00))

/-- The parts of bytes after the position `offset` in UTF-16. -/
def parts16 (order : Order) (offset : Nat) : List UInt8 → List Part
  | [] => []
  | [_] => [.broken ⟨offset, offset + 1, .truncated⟩]
  | [a, b] =>
    let n := unit16 order a b
    if isFirstHalf n then [.half ⟨offset, offset + 2, .endOfData⟩]
    else if isSecondHalf n then [.half ⟨offset, offset + 2, .secondHalf⟩]
    else [.char (Char.ofNat n)]
  | [a, b, _] =>
    let n := unit16 order a b
    let part : Part :=
      if isFirstHalf n then .half ⟨offset, offset + 3, .endOfData⟩
      else if isSecondHalf n then .half ⟨offset, offset + 2, .secondHalf⟩
      else .char (Char.ofNat n)
    [part, .broken ⟨offset + 2, offset + 3, .truncated⟩]
  | a :: b :: c :: d :: rest =>
    let n := unit16 order a b
    let m := unit16 order c d
    if isFirstHalf n then
      if isSecondHalf m then .char (joined n m) :: parts16 order (offset + 4) rest
      else .half ⟨offset, offset + 2, .firstHalf⟩ :: parts16 order (offset + 2) (c :: d :: rest)
    else
      let part : Part :=
        if isSecondHalf n then .half ⟨offset, offset + 2, .secondHalf⟩ else .char (Char.ofNat n)
      part :: parts16 order (offset + 2) (c :: d :: rest)

/-- The parts of bytes after the position `offset` in UTF-32. -/
def parts32 (order : Order) (offset : Nat) : List UInt8 → List Part
  | [] => []
  | a :: b :: c :: d :: rest =>
    let n := unit32 order a b c d
    let part : Part :=
      if 0x110000 ≤ n then .broken ⟨offset, offset + 4, .beyond⟩
      else if 0xd800 ≤ n && n < 0xe000 then .half ⟨offset, offset + 4, .halves⟩
      else .char (Char.ofNat n)
    part :: parts32 order (offset + 4) rest
  | rest => [.broken ⟨offset, offset + rest.length, .truncated⟩]

end PlayerPage.Text.Wide

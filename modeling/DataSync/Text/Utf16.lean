/-!
# UTF-16

Texts as sequences of 16 bit units, where a character beyond `U+FFFF` takes two of them.
-/

namespace DataSync.Text.Utf16

/-- The units of a character. -/
def encodeChar (c : Char) : List Nat :=
  if c.toNat < 0x10000 then [c.toNat]
  else [0xD800 + (c.toNat - 0x10000) / 0x400, 0xDC00 + (c.toNat - 0x10000) % 0x400]

/-- The units of characters. -/
def encode (chars : List Char) : List Nat :=
  chars.flatMap encodeChar

/-- Whether a unit is the first one of a pair. -/
def isLeading (unit : Nat) : Bool :=
  0xD800 ≤ unit && unit < 0xDC00

/-- Whether a unit is the second one of a pair. -/
def isTrailing (unit : Nat) : Bool :=
  0xDC00 ≤ unit && unit < 0xE000

/-- The characters that units stand for, unless one stands alone that belongs to a pair. -/
def decode : List Nat → Option (List Char)
  | [] => some []
  | [unit] => if isLeading unit || isTrailing unit then none else some [Char.ofNat unit]
  | first :: second :: rest =>
    if isTrailing first then none
    else if isLeading first then
      if isTrailing second then
        (decode rest).map
          (Char.ofNat (0x10000 + (first - 0xD800) * 0x400 + (second - 0xDC00)) :: ·)
      else none
    else (decode (second :: rest)).map (Char.ofNat first :: ·)

end DataSync.Text.Utf16

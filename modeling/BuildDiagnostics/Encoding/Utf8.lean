/-!
# UTF-8

`utf8` cuts bytes into units: a character, or a rejected sequence. A rejected sequence is as long as
it could still have become a character, so the byte that breaks it starts the next unit.
-/

namespace BuildDiagnostics

/-- What decoding makes of one sequence of bytes: a character, or nothing when it is malformed. -/
abbrev CodeUnits := List (Option Char)

namespace Utf8

/-- Whether the byte continues a sequence. -/
def isTail (b : UInt8) : Bool := 0x80 ≤ b && b ≤ 0xBF

/-- Whether the byte is one of the first and last that may follow the lead. -/
def follows (lead b : UInt8) : Bool :=
  let lo := if lead = 0xE0 then 0xA0 else if lead = 0xF0 then 0x90 else 0x80
  let hi := if lead = 0xED then 0x9F else if lead = 0xF4 then 0x8F else 0xBF
  lo ≤ b && b ≤ hi

/-- The six bits that a byte in a sequence carries. -/
def tailBits (b : UInt8) : Nat := b.toNat % 64

/-- The character of two bytes. -/
def char2 (b₀ b₁ : UInt8) : Char := Char.ofNat (b₀.toNat % 32 * 64 + tailBits b₁)

/-- The character of three bytes. -/
def char3 (b₀ b₁ b₂ : UInt8) : Char :=
  Char.ofNat (b₀.toNat % 16 * 4096 + tailBits b₁ * 64 + tailBits b₂)

/-- The character of four bytes. -/
def char4 (b₀ b₁ b₂ b₃ : UInt8) : Char :=
  Char.ofNat (b₀.toNat % 8 * 262144 + tailBits b₁ * 4096 + tailBits b₂ * 64 + tailBits b₃)

/-- The units of a byte string. -/
def units : List UInt8 → CodeUnits
  | [] => []
  | b₀ :: r₀ =>
    if b₀ < 0x80 then some (Char.ofNat b₀.toNat) :: units r₀
    else if b₀ < 0xC2 || 0xF4 < b₀ then none :: units r₀
    else
      match r₀ with
      | [] => [none]
      | b₁ :: r₁ =>
        if !follows b₀ b₁ then none :: units (b₁ :: r₁)
        else if b₀ < 0xE0 then some (char2 b₀ b₁) :: units r₁
        else
          match r₁ with
          | [] => [none]
          | b₂ :: r₂ =>
            if !isTail b₂ then none :: units (b₂ :: r₂)
            else if b₀ < 0xF0 then some (char3 b₀ b₁ b₂) :: units r₂
            else
              match r₂ with
              | [] => [none]
              | b₃ :: r₃ =>
                if !isTail b₃ then none :: units (b₃ :: r₃)
                else some (char4 b₀ b₁ b₂ b₃) :: units r₃

/-- The characters of a byte string that is valid throughout. -/
def decode? (bytes : List UInt8) : Option (List Char) := (units bytes).mapM id

/-- The bytes of a text. -/
def encode (s : String) : List UInt8 := s.toUTF8.toList

end Utf8

end BuildDiagnostics

/-!
# Text as bytes

`encode` writes a text in UTF-8. `decode` reads bytes as UTF-8 and never fails: each maximal
part that no character begins with becomes one replacement character U+FFFD. A part is maximal
in the sense of the Unicode standard: it ends at the first byte that cannot continue it, and that
byte is read afresh.
-/
namespace Testbed.Text

/-- A text as UTF-8. -/
def encode (s : String) : List UInt8 := s.toList.flatMap String.utf8EncodeChar

namespace Utf8

/-- A character begun: its bits so far, the number of bytes that must follow, and the range that
the next one must lie in. -/
structure Pending where
  bits : Nat
  owed : Nat
  low : UInt8
  high : UInt8

/-- What a first byte begins: a character of one byte, a longer one, or nothing. -/
inductive First
  | whole (c : Char)
  | begun (p : Pending)
  | invalid

/-- A first byte decides the length of its character and the range of the second byte, which rules
out overlong forms, surrogates and all beyond U+10FFFF. -/
def first (b : UInt8) : First :=
  let n := b.toNat
  if n < 0x80 then .whole (Char.ofNat n)
  else if n < 0xC2 then .invalid
  else if n < 0xE0 then .begun ⟨n - 0xC0, 1, 0x80, 0xBF⟩
  else if n = 0xE0 then .begun ⟨0, 2, 0xA0, 0xBF⟩
  else if n = 0xED then .begun ⟨0xD, 2, 0x80, 0x9F⟩
  else if n < 0xF0 then .begun ⟨n - 0xE0, 2, 0x80, 0xBF⟩
  else if n = 0xF0 then .begun ⟨0, 3, 0x90, 0xBF⟩
  else if n < 0xF4 then .begun ⟨n - 0xF0, 3, 0x80, 0xBF⟩
  else if n = 0xF4 then .begun ⟨4, 3, 0x80, 0x8F⟩
  else .invalid

/-- U+FFFD, which stands for what is not text. -/
def replacement : Char := '\uFFFD'

/-- The characters that the byte completes, and the one it leaves begun. -/
def step (pending : Option Pending) (b : UInt8) : List Char × Option Pending :=
  match pending with
  | none => start b
  | some p =>
    if p.low ≤ b && b ≤ p.high then
      let bits := p.bits * 64 + (b.toNat - 0x80)
      if p.owed ≤ 1 then ([Char.ofNat bits], none)
      else ([], some ⟨bits, p.owed - 1, 0x80, 0xBF⟩)
    else
      let (cs, next) := start b
      (replacement :: cs, next)
where
  start (b : UInt8) : List Char × Option Pending :=
    match first b with
    | .whole c => ([c], none)
    | .begun p => ([], some p)
    | .invalid => ([replacement], none)

/-- The characters of the bytes, after a character begun earlier. -/
def chars : Option Pending → List UInt8 → List Char
  | none, [] => []
  | some _, [] => [replacement]
  | pending, b :: rest => (step pending b).1 ++ chars (step pending b).2 rest

end Utf8

/-- Bytes as text, with U+FFFD for each maximal part that is not UTF-8. -/
def decode (bytes : List UInt8) : String := String.ofList (Utf8.chars none bytes)

end Testbed.Text

import Testbed.Rehearsal.Machine.Tool.Reading
/-!
# Digests

Tools that boil a file down to a short number, which tells other files from it, and that check files
against such numbers. All of the longer ones cut the bytes, with an end mark and their number behind
them, into blocks, and mix one block after another into a state of some words.
-/
namespace Testbed.Rehearsal.Machine.Tool

open Act

/-! ## Words -/

def turnLeft (x : UInt32) (n : Nat) : UInt32 :=
  let n := UInt32.ofNat n
  (x <<< n) ||| (x >>> (32 - n))

def turnRight (x : UInt32) (n : Nat) : UInt32 := turnLeft x (32 - n)

/-- A word from four bytes, the highest one first. -/
def wordHigh (bytes : List Char) : UInt32 :=
  bytes.foldl (fun n c => n * 256 + UInt32.ofNat c.toNat) 0

/-- A word from four bytes, the lowest one first. -/
def wordLow (bytes : List Char) : UInt32 := wordHigh bytes.reverse

/-- A word in hexadecimal digits, the highest byte first. -/
def hexHigh (x : UInt32) : String :=
  let digits := Nat.toDigits 16 x.toNat
  String.ofList (List.replicate (8 - digits.length) '0' ++ digits)

/-- A word in hexadecimal digits, the lowest byte first. -/
def hexLow (x : UInt32) : String :=
  let (inner, outer) : UInt32 × UInt32 := (0xff00, 0xff0000)
  hexHigh ((x >>> 24) ||| ((x >>> 8) &&& inner) ||| ((x <<< 8) &&& outer) ||| (x <<< 24))

/-- The words of the blocks of a text, with the mark and the number of bits behind it. -/
def blocksOfText (high : Bool) (text : List Char) : List (Array UInt32) :=
  let zeros := (119 - text.length % 64) % 64
  let bits := text.length * 8
  let size := (List.range 8).map fun i =>
    Char.ofNat (bits / Nat.pow 256 (if high then 7 - i else i) % 256)
  let padded := text ++ '\x80' :: List.replicate zeros '\x00' ++ size
  cut padded (padded.length + 1)
where
  cut (text : List Char) : Nat → List (Array UInt32)
    | 0 => []
    | fuel + 1 =>
      if text.isEmpty then []
      else
        let block := text.take 64
        let words := (List.range 16).map fun i =>
          let bytes := (block.drop (4 * i)).take 4
          if high then wordHigh bytes else wordLow bytes
        words.toArray :: cut (text.drop 64) fuel

def word (row : Array UInt32) (i : Nat) : UInt32 := (row[i]?).getD 0

/-! ## Mixing -/

/-- The words that `md5sum` adds: the digits of sines. -/
def sines : Array UInt32 :=
  #[0xd76aa478, 0xe8c7b756, 0x242070db, 0xc1bdceee, 0xf57c0faf, 0x4787c62a, 0xa8304613, 0xfd469501,
    0x698098d8, 0x8b44f7af, 0xffff5bb1, 0x895cd7be, 0x6b901122, 0xfd987193, 0xa679438e, 0x49b40821,
    0xf61e2562, 0xc040b340, 0x265e5a51, 0xe9b6c7aa, 0xd62f105d, 0x02441453, 0xd8a1e681, 0xe7d3fbc8,
    0x21e1cde6, 0xc33707d6, 0xf4d50d87, 0x455a14ed, 0xa9e3e905, 0xfcefa3f8, 0x676f02d9, 0x8d2a4c8a,
    0xfffa3942, 0x8771f681, 0x6d9d6122, 0xfde5380c, 0xa4beea44, 0x4bdecfa9, 0xf6bb4b60, 0xbebfbc70,
    0x289b7ec6, 0xeaa127fa, 0xd4ef3085, 0x04881d05, 0xd9d4d039, 0xe6db99e5, 0x1fa27cf8, 0xc4ac5665,
    0xf4292244, 0x432aff97, 0xab9423a7, 0xfc93a039, 0x655b59c3, 0x8f0ccc92, 0xffeff47d, 0x85845dd1,
    0x6fa87e4f, 0xfe2ce6e0, 0xa3014314, 0x4e0811a1, 0xf7537e82, 0xbd3af235, 0x2ad7d2bb, 0xeb86d391]

/-- The words that `sha256sum` adds: the digits of cube roots of primes. -/
def cubeRoots : Array UInt32 :=
  #[0x428a2f98, 0x71374491, 0xb5c0fbcf, 0xe9b5dba5, 0x3956c25b, 0x59f111f1, 0x923f82a4, 0xab1c5ed5,
    0xd807aa98, 0x12835b01, 0x243185be, 0x550c7dc3, 0x72be5d74, 0x80deb1fe, 0x9bdc06a7, 0xc19bf174,
    0xe49b69c1, 0xefbe4786, 0x0fc19dc6, 0x240ca1cc, 0x2de92c6f, 0x4a7484aa, 0x5cb0a9dc, 0x76f988da,
    0x983e5152, 0xa831c66d, 0xb00327c8, 0xbf597fc7, 0xc6e00bf3, 0xd5a79147, 0x06ca6351, 0x14292967,
    0x27b70a85, 0x2e1b2138, 0x4d2c6dfc, 0x53380d13, 0x650a7354, 0x766a0abb, 0x81c2c92e, 0x92722c85,
    0xa2bfe8a1, 0xa81a664b, 0xc24b8b70, 0xc76c51a3, 0xd192e819, 0xd6990624, 0xf40e3585, 0x106aa070,
    0x19a4c116, 0x1e376c08, 0x2748774c, 0x34b0bcb5, 0x391c0cb3, 0x4ed8aa4a, 0x5b9cca4f, 0x682e6ff3,
    0x748f82ee, 0x78a5636f, 0x84c87814, 0x8cc70208, 0x90befffa, 0xa4506ceb, 0xbef9a3f7, 0xc67178f2]

/-- The sums of the words of two states. -/
def addWords (a b : List UInt32) : List UInt32 := List.zipWith (· + ·) a b

def mixMd5 (state : List UInt32) (block : Array UInt32) : List UInt32 :=
  let turns := [[7, 12, 17, 22], [5, 9, 14, 20], [4, 11, 16, 23], [6, 10, 15, 21]]
  addWords state <| (List.range 64).foldl (fun s i =>
    match s with
    | [a, b, c, d] =>
      let (f, g) := match i / 16 with
        | 0 => ((b &&& c) ||| (~~~b &&& d), i)
        | 1 => ((d &&& b) ||| (~~~d &&& c), (5 * i + 1) % 16)
        | 2 => (b ^^^ c ^^^ d, (3 * i + 5) % 16)
        | _ => (c ^^^ (b ||| ~~~d), 7 * i % 16)
      let turn := ((turns[i / 16]?).getD [])[i % 4]?.getD 0
      [d, b + turnLeft (a + f + word sines i + word block g) turn, b, c]
    | s => s) state

def mixSha1 (state : List UInt32) (block : Array UInt32) : List UInt32 :=
  let words := (List.range 64).foldl (fun row i =>
    let i := i + 16
    row.push (turnLeft (word row (i - 3) ^^^ word row (i - 8) ^^^ word row (i - 14) ^^^
      word row (i - 16)) 1)) block
  addWords state <| (List.range 80).foldl (fun s i =>
    match s with
    | [a, b, c, d, e] =>
      let (f, k) : UInt32 × UInt32 := match i / 20 with
        | 0 => ((b &&& c) ||| (~~~b &&& d), 0x5a827999)
        | 1 => (b ^^^ c ^^^ d, 0x6ed9eba1)
        | 2 => ((b &&& c) ||| (b &&& d) ||| (c &&& d), 0x8f1bbcdc)
        | _ => (b ^^^ c ^^^ d, 0xca62c1d6)
      [turnLeft a 5 + f + e + k + word words i, a, turnLeft b 30, c, d]
    | s => s) state

def mixSha256 (state : List UInt32) (block : Array UInt32) : List UInt32 :=
  let words := (List.range 48).foldl (fun row i =>
    let i := i + 16
    let (x, y) := (word row (i - 15), word row (i - 2))
    let low := turnRight x 7 ^^^ turnRight x 18 ^^^ (x >>> 3)
    let high := turnRight y 17 ^^^ turnRight y 19 ^^^ (y >>> 10)
    row.push (word row (i - 16) + low + word row (i - 7) + high)) block
  addWords state <| (List.range 64).foldl (fun s i =>
    match s with
    | [a, b, c, d, e, f, g, h] =>
      let high := turnRight e 6 ^^^ turnRight e 11 ^^^ turnRight e 25
      let choice := (e &&& f) ^^^ (~~~e &&& g)
      let one := h + high + choice + word cubeRoots i + word words i
      let low := turnRight a 2 ^^^ turnRight a 13 ^^^ turnRight a 22
      let other := low + ((a &&& b) ^^^ (a &&& c) ^^^ (b &&& c))
      [one + other, a, b, c, d + one, e, f, g]
    | s => s) state

/-- A way to make a digest. -/
structure DigestKind where
  name : String
  length : Nat
  digest : List Char → String

def md5 : DigestKind where
  name := "MD5"
  length := 32
  digest text := Text.join "" (((blocksOfText false text).foldl mixMd5
    [0x67452301, 0xefcdab89, 0x98badcfe, 0x10325476]).map hexLow)

def sha1 : DigestKind where
  name := "SHA1"
  length := 40
  digest text := Text.join "" (((blocksOfText true text).foldl mixSha1
    [0x67452301, 0xefcdab89, 0x98badcfe, 0x10325476, 0xc3d2e1f0]).map hexHigh)

def sha256 : DigestKind where
  name := "SHA256"
  length := 64
  digest text := Text.join "" (((blocksOfText true text).foldl mixSha256
    [0x6a09e667, 0xbb67ae85, 0x3c6ef372, 0xa54ff53a, 0x510e527f, 0x9b05688c, 0x1f83d9ab,
     0x5be0cd19]).map hexHigh)

/-! ## The tools -/

/-- A line with a digest and a name. -/
def digestLine? (k : DigestKind) (line : List Char) : Option (String × String) :=
  let digits := line.take k.length
  let isHex (c : Char) : Bool :=
    c.isDigit || ('a' ≤ c && c ≤ 'f') || ('A' ≤ c && c ≤ 'F')
  match line.drop k.length with
  | ' ' :: c :: name =>
    if digits.all isHex && digits.length = k.length && (c = ' ' || c = '*') && !name.isEmpty then
      some (String.ofList (digits.map Char.toLower), String.ofList name)
    else none
  | _ => none

/-- Checks files against the digests in a list. -/
def checkDigests (k : DigestKind) (chosen : Chosen) (path : String) : Act Unit := do
  let shown := if path = "-" then "'standard input'" else shownName path
  match ← contentOf path with
  | .error e => trouble s!"{shown}: {e.words.1}"
  | .ok text =>
    let rows := (linesOf text).1.map (digestLine? k)
    let found := rows.filterMap id
    if found.isEmpty then trouble s!"{shown}: no properly formatted checksum lines found"
    else
      let silent := chosen.has 's'
      let mut wrong := 0
      let mut missing := 0
      for (digest, name) in found do
        match ← contentOf name with
        | .error e =>
          missing := missing + 1
          complain s!"{shownName name}: {e.words.1}"
          unless silent do say s!"{name}: FAILED open or read\n"
        | .ok content =>
          if k.digest content = digest then
            unless silent || chosen.has 'q' do say s!"{name}: OK\n"
          else
            wrong := wrong + 1
            unless silent do say s!"{name}: FAILED\n"
      let malformed := (rows.filter Option.isNone).length
      let warn (n : Nat) (one many : String) : Act Unit := do
        if 0 < n && !silent then
          let words := if n = 1 then one else many
          complain s!"WARNING: {Text.decimal n} {words}"
      warn malformed "line is improperly formatted" "lines are improperly formatted"
      warn missing "listed file could not be read" "listed files could not be read"
      warn wrong "computed checksum did NOT match" "computed checksums did NOT match"
      if 0 < wrong + missing then setStatus 1

def digestTool (k : DigestKind) : Tool := fun arguments => do
  let g : Grammar := { kinds := [⟨'b', "binary", .nothing⟩, ⟨'c', "check", .nothing⟩,
    ⟨'t', "text", .nothing⟩, ⟨'T', "tag", .nothing⟩, ⟨'q', "quiet", .nothing⟩,
    ⟨'s', "status", .nothing⟩, ⟨'w', "warn", .nothing⟩, ⟨'z', "zero", .nothing⟩,
    ⟨'S', "strict", .nothing⟩, ⟨'I', "ignore-missing", .nothing⟩] }
  let (chosen, files) ← g.all arguments
  for path in inputsOf files do
    if chosen.has 'c' then checkDigests k chosen path
    else match ← contentOf path with
      | .error e => trouble s!"{shownName path}: {e.words.1}"
      | .ok text =>
        let digest := k.digest text
        let mark := if chosen.has 'b' then "*" else " "
        let strange := path.toList.any fun c => c = '\n' || c = '\\'
        let name := if strange then
            String.ofList (path.toList.flatMap fun c =>
              if c = '\n' then ['\\', 'n'] else if c = '\\' then ['\\', '\\'] else [c])
          else path
        let front := if strange then "\\" else ""
        if chosen.has 'T' then say s!"{front}{k.name} ({name}) = {digest}\n"
        else say s!"{front}{digest} {mark}{name}\n"

/-- The remainder of the bytes as a polynomial, and of their number behind them. -/
def cyclicSum (text : List Char) : UInt32 :=
  let step (crc : UInt32) (byte : Nat) : UInt32 :=
    (List.range 8).foldl (fun crc _ =>
      if crc &&& 0x80000000 ≠ 0 then (crc <<< 1) ^^^ 0x04c11db7 else crc <<< 1)
      (crc ^^^ (UInt32.ofNat byte <<< 24))
  let rec size : Nat → Nat → List Nat
    | 0, _ => []
    | fuel + 1, n => if n = 0 then [] else n % 256 :: size fuel (n / 256)
  let crc := text.foldl (fun crc c => step crc c.toNat) 0
  ~~~((size 9 text.length).foldl step crc)

def cksum : Tool := fun arguments => do
  let (_, files) ← ({ kinds := [] } : Grammar).all arguments
  for path in inputsOf files do
    match ← contentOf path with
    | .error e => trouble s!"{shownName path}: {e.words.1}"
    | .ok text =>
      let name := if files.isEmpty then "" else " " ++ path
      say s!"{Text.decimal (cyclicSum text).toNat} {Text.decimal text.length}{name}\n"

/-- The tools of this module by their names. -/
def digestTools : List (String × Tool) :=
  [("cksum", cksum),
   ("md5sum", digestTool md5),
   ("sha1sum", digestTool sha1),
   ("sha256sum", digestTool sha256)]

end Testbed.Rehearsal.Machine.Tool

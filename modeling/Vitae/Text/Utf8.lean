/-!
# UTF-8

Between characters and the bytes a file or a path holds. Encoding is a plain
map. Decoding must cope with bytes that are no text at all, so it is a scan
that yields one entry per character or per stretch of bytes that cannot belong
to one. Both readings of a byte string follow from the scan: the strict one
succeeds when every entry is a character, and the lenient one shows each
stretch as the replacement character.

A stretch is as long as it can be while still being the beginning of some
encoding, so a truncated character counts once and does not swallow what
follows it.

## Main definitions

* `Bytes`: A byte string.
* `encode`: The bytes of a text.
* `Pending`: A character whose first bytes have been seen.
* `step`: What one more byte completes.
* `scan`: The characters of a byte string, with `none` for what is not text.
* `decode?`: The text a byte string encodes, if it encodes one.
* `decodeLossy`: A byte string shown as text.

## Theorems

* `encode_append`: Encoding distributes over concatenation.
-/

namespace Vitae

abbrev Bytes := List UInt8

namespace Utf8

def encode (s : String) : Bytes :=
  s.toList.flatMap String.utf8EncodeChar

theorem encode_append (s t : String) : encode (s ++ t) = encode s ++ encode t := by
  simp [encode]

/-- A character whose first bytes have been seen. -/
structure Pending where
  /-- The code point so far. -/
  value : Nat
  /-- How many bytes are still missing, the next one included. -/
  missing : Nat
  /-- The least value the next byte may have. -/
  least : UInt8
  /-- The greatest value the next byte may have. -/
  greatest : UInt8

/-- What the first byte of a character promises. Bytes that never start one
have no entry. The bounds on the second byte rule out overlong forms,
surrogates and code points that are too large. -/
def lead (b : UInt8) : Option Pending :=
  let n := b.toNat
  if 0xC2 ≤ n && n ≤ 0xDF then some ⟨n - 0xC0, 1, 0x80, 0xBF⟩
  else if n == 0xE0 then some ⟨0, 2, 0xA0, 0xBF⟩
  else if n == 0xED then some ⟨0xD, 2, 0x80, 0x9F⟩
  else if 0xE1 ≤ n && n ≤ 0xEF then some ⟨n - 0xE0, 2, 0x80, 0xBF⟩
  else if n == 0xF0 then some ⟨0, 3, 0x90, 0xBF⟩
  else if 0xF1 ≤ n && n ≤ 0xF3 then some ⟨n - 0xF0, 3, 0x80, 0xBF⟩
  else if n == 0xF4 then some ⟨4, 3, 0x80, 0x8F⟩
  else none

/-- What a byte completes where no character is incomplete, and the character
it begins. -/
def begin (b : UInt8) : List (Option Char) × Option Pending :=
  if b < 0x80 then ([some (Char.ofNat b.toNat)], none)
  else
    match lead b with
    | some p => ([], some p)
    | none => ([none], none)

/-- What a byte completes, and the character that is incomplete behind it. A
byte that does not continue the character begins afresh. -/
def step (pending : Option Pending) (b : UInt8) : List (Option Char) × Option Pending :=
  match pending with
  | none => begin b
  | some p =>
    if p.least ≤ b && b ≤ p.greatest then
      let value := p.value * 64 + (b.toNat - 0x80)
      if p.missing ≤ 1 then ([some (Char.ofNat value)], none)
      else ([], some ⟨value, p.missing - 1, 0x80, 0xBF⟩)
    else
      let (out, next) := begin b
      (none :: out, next)

/-- The characters of a byte string from some point on, given the character
that is still incomplete there. -/
def scanFrom (pending : Option Pending) : Bytes → List (Option Char)
  | [] => if pending.isSome then [none] else []
  | b :: rest =>
    let (out, next) := step pending b
    out ++ scanFrom next rest

/-- The characters of a byte string, with `none` for every stretch that is not
text. -/
def scan (bytes : Bytes) : List (Option Char) :=
  scanFrom none bytes

/-- The characters of a byte string that encodes a text. -/
def decodeChars? (bytes : Bytes) : Option (List Char) :=
  (scan bytes).mapM id

/-- The text a byte string encodes, if it encodes one. -/
def decode? (bytes : Bytes) : Option String :=
  (decodeChars? bytes).map String.ofList

/-- A byte string shown as text, with a replacement character for every
stretch that is not text. -/
def decodeLossy (bytes : Bytes) : String :=
  String.ofList ((scan bytes).map (fun c => c.getD '\uFFFD'))

end Utf8

end Vitae

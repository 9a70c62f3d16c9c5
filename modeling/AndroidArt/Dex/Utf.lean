import AndroidArt.Dex.Lookup

/-!
# Modified UTF-8 conversions and the string data check

Model of `CountModifiedUtf8Chars`, `ConvertModifiedUtf8ToUtf16`, `ConvertUtf16ToModifiedUtf8` and
`CountUtf8Bytes` of `runtime/utf.cc`, and of `DexFileVerifier::CheckIntraStringDataItem` of
`runtime/dex_file_verifier.cc`.

A Modified UTF-8 string is the list of its bytes, as in `DexFile`: a read past the end reads the
terminator.  The source reads a string through `char`, which may be signed, and widens it to
`int`; bits 5 and 7, the only ones it tests, are those of the unsigned byte, which is what the
model reads.  UTF-16 units are `uint16_t`.

`CheckIntraStringDataItem` reads through `ptr_` like the other item checks of
`DexFileVerifier`: the loop over the `utf16_size` units checks that each unit starts inside the
file, and reads the continuation bytes of a unit without that check.

The `CHECK_LT(i, size)` of the loop holds at every round, so a debug and a release build check a
string alike.
-/

set_option autoImplicit false

namespace Art

namespace Utf

open DexFile

/-- The loop of `CountModifiedUtf8Chars` with `len` units counted so far; each round consumes at
least one byte, so `fuel` of the length of the string and one more always reaches its end. -/
def countModifiedUtf8CharsLoop : Nat → Nat → List Nat → Nat
  | 0, len, _ => len
  | fuel + 1, len, utf8 =>
    let ic := deref utf8
    let utf8 := utf8.tail
    if ic = 0 then len
    else
      let len := len + 1
      if ic &&& 0x80 = 0 then countModifiedUtf8CharsLoop fuel len utf8
      else
        let utf8 := utf8.tail
        if ic &&& 0x20 = 0 then countModifiedUtf8CharsLoop fuel len utf8
        else countModifiedUtf8CharsLoop fuel len utf8.tail

/-- `CountModifiedUtf8Chars`. -/
def countModifiedUtf8Chars (utf8 : List Nat) : Nat :=
  countModifiedUtf8CharsLoop (utf8.length + 1) 0 utf8

/-- The loop of `ConvertModifiedUtf8ToUtf16`, collecting the units it writes. -/
def convertModifiedUtf8ToUtf16Loop : Nat → List Nat → List UInt16
  | 0, _ => []
  | fuel + 1, utf8DataIn =>
    if deref utf8DataIn = 0 then []
    else
      let r := getUtf16FromUtf8 utf8DataIn
      r.1.toUInt16 :: convertModifiedUtf8ToUtf16Loop fuel r.2

/-- `ConvertModifiedUtf8ToUtf16`: the units written to `utf16_data_out`. -/
def convertModifiedUtf8ToUtf16 (utf8DataIn : List Nat) : List UInt16 :=
  convertModifiedUtf8ToUtf16Loop (utf8DataIn.length + 1) utf8DataIn

/-- The bytes that one round of `ConvertUtf16ToModifiedUtf8` writes for the unit `ch`. -/
def convertUnit (ch : UInt16) : List Nat :=
  let ch := ch.toNat
  if ch > 0 ∧ ch ≤ 0x7f then [ch]
  else if ch > 0x07ff then
    [(ch >>> 12) ||| 0xe0, ((ch >>> 6) &&& 0x3f) ||| 0x80, (ch &&& 0x3f) ||| 0x80]
  else [(ch >>> 6) ||| 0xc0, (ch &&& 0x3f) ||| 0x80]

/-- `ConvertUtf16ToModifiedUtf8`: the bytes written to `utf8_out`. -/
def convertUtf16ToModifiedUtf8 (utf16In : List UInt16) : List Nat :=
  utf16In.foldl (fun utf8Out ch => utf8Out ++ convertUnit ch) []

/-- `CountUtf8Bytes`. -/
def countUtf8Bytes (chars : List UInt16) : Nat :=
  chars.foldl (fun result ch =>
    if ch.toNat > 0 ∧ ch.toNat ≤ 0x7f then result + 1
    else if ch.toNat > 0x7ff then result + 3
    else result + 2) 0

end Utf

namespace DexFileVerifier

/-- `*(ptr_++)`. -/
def readByte (v : DexFileVerifier) : VerifyM Nat := do
  let ptr := (← get).ptr
  let byte ← v.readLE ptr 1
  modify fun s => { s with ptr := ptr + 1 }
  return byte

/-- One round of the loop of `CheckIntraStringDataItem`: the unit at `ptr_`. -/
def checkStringDataUnit (v : DexFileVerifier) (size : Nat) : VerifyM Unit := do
  if (← get).ptr ≥ v.size then fail "String data would go beyond end-of-file"
  let byte ← v.readByte
  match byte >>> 4 with
  | 0x00 =>
    if byte = 0 then fail ("String data shorter than indicated utf16_size " ++ hex size)
  | 0x01 | 0x02 | 0x03 | 0x04 | 0x05 | 0x06 | 0x07 => pure ()
  | 0x08 | 0x09 | 0x0a | 0x0b | 0x0f =>
    fail ("Illegal start byte " ++ hex byte ++ " in string data")
  | 0x0c | 0x0d =>
    let byte2 ← v.readByte
    if byte2 &&& 0xc0 ≠ 0x80 then
      fail ("Illegal continuation byte " ++ hex byte2 ++ " in string data")
    let value := ((byte &&& 0x1f) <<< 6) ||| (byte2 &&& 0x3f)
    if value ≠ 0 ∧ value < 0x80 then
      fail ("Illegal representation for value " ++ hex value ++ " in string data")
  | 0x0e =>
    let byte2 ← v.readByte
    if byte2 &&& 0xc0 ≠ 0x80 then
      fail ("Illegal continuation byte " ++ hex byte2 ++ " in string data")
    let byte3 ← v.readByte
    if byte3 &&& 0xc0 ≠ 0x80 then
      fail ("Illegal continuation byte " ++ hex byte3 ++ " in string data")
    let value := ((byte &&& 0x0f) <<< 12) ||| ((byte2 &&& 0x3f) <<< 6) ||| (byte3 &&& 0x3f)
    if value < 0x800 then
      fail ("Illegal representation for value " ++ hex value ++ " in string data")
  | _ => pure ()

/-- The loop of `CheckIntraStringDataItem` over the `count` units left. -/
def checkStringDataUnits (v : DexFileVerifier) (size : Nat) : Nat → VerifyM Unit
  | 0 => pure ()
  | count + 1 => do
    v.checkStringDataUnit size
    v.checkStringDataUnits size count

/-- `CheckIntraStringDataItem`: `utf16_size` units, then the terminating NUL. -/
def checkIntraStringDataItem (v : DexFileVerifier) : VerifyM Unit := do
  let size ← v.decodeUnsignedLeb128
  v.checkStringDataUnits size size
  if (← v.readByte) ≠ 0 then fail ("String longer than indicated size " ++ hex size)

end DexFileVerifier

end Art

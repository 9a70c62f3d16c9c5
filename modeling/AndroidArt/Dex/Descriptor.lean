import AndroidArt.Dex.Lookup

/-!
# Member names and type descriptors

Model of `IsValidMemberName` and `IsValidDescriptor` of `runtime/utils.cc`, with
`IsValidPartOfMemberNameUtf8`, its slow path and `IsValidClassName`, which the inter-section pass
of the dex file verifier runs on the names and descriptors of the file.

A string is the list of its bytes before the NUL, as in `AndroidArt.Dex.Lookup`: a read past the
end reads the terminator.  Each loop takes at least one byte a round, so the length of the string
bounds its rounds.
-/

set_option autoImplicit false

namespace Art

open DexFile

/-- `DEX_MEMBER_VALID_LOW_ASCII`: a bit for each valid character below `0x80`. -/
def dexMemberValidLowAscii : List Nat := [0x00000000, 0x03ff2010, 0x87fffffe, 0x07fffffe]

/-- `IsValidPartOfMemberNameUtf8Slow`: whether the encoded character at the front of `s` may be
part of a member name, and the bytes after it. -/
def isValidPartOfMemberNameUtf8Slow (s : List Nat) : Bool × List Nat :=
  let (utf16, s) := getUtf16FromUtf8 s
  let high := utf16 >>> 8
  if high = 0x00 then (decide (utf16 > 0x00a0), s)
  else if 0xd8 ≤ high ∧ high ≤ 0xdb then
    let (utf16, s) := getUtf16FromUtf8 s
    (decide (0xdc00 ≤ utf16 ∧ utf16 ≤ 0xdfff), s)
  else if 0xdc ≤ high ∧ high ≤ 0xdf then (false, s)
  else if high = 0x20 ∨ high = 0xff then
    let low := utf16 &&& 0xfff8
    (!decide (low = 0x2000 ∨ low = 0x2008 ∨ low = 0x2028 ∨ low = 0xfff0 ∨ low = 0xfff8), s)
  else (true, s)

/-- `IsValidPartOfMemberNameUtf8`: below `0x80` the table decides. -/
def isValidPartOfMemberNameUtf8 (s : List Nat) : Bool × List Nat :=
  let c := deref s
  if c ≤ 0x7f then
    (dexMemberValidLowAscii.getD (c >>> 5) 0 &&& 1 <<< (c &&& 0x1f) != 0, s.tail)
  else isValidPartOfMemberNameUtf8Slow s

/-- The loop of `IsValidMemberName`, for at most `fuel` characters. -/
def isValidMemberNameLoop (angleName : Bool) : Nat → List Nat → Bool
  | 0, _ => false
  | fuel + 1, s =>
    if deref s = 0 then !angleName
    else if deref s = '>'.toNat then angleName && deref s.tail == 0
    else
      let (ok, s) := isValidPartOfMemberNameUtf8 s
      ok && isValidMemberNameLoop angleName fuel s

/-- `IsValidMemberName`: a non-empty name, or one between `<` and `>`. -/
def isValidMemberName (s : List Nat) : Bool :=
  if deref s = 0 then false
  else if deref s = '<'.toNat then isValidMemberNameLoop true s.length s.tail
  else isValidMemberNameLoop false (s.length + 1) s

/-- `ClassNameType`. -/
inductive ClassNameType where
  | kName
  | kDescriptor
  deriving DecidableEq, Repr

/-- The loop of `IsValidClassName` over the class name, for at most `fuel` characters;
`sepOrFirst` is set at the start and after a separator. -/
def isValidClassNameLoop (type : ClassNameType) (separator : Nat) : Nat → Bool → List Nat → Bool
  | 0, _, _ => false
  | fuel + 1, sepOrFirst, s =>
    let c := deref s
    if c = 0 then type == .kName && !sepOrFirst
    else if c = ';'.toNat then type == .kDescriptor && !sepOrFirst && deref s.tail == 0
    else if c = '/'.toNat ∨ c = '.'.toNat then
      if c ≠ separator then false
      else if sepOrFirst then false
      else isValidClassNameLoop type separator fuel true s.tail
    else
      let (ok, s) := isValidPartOfMemberNameUtf8 s
      ok && isValidClassNameLoop type separator fuel false s

/-- The single-character descriptors of the primitive types other than `void`. -/
def primitiveDescriptors : List Nat := "BCDFIJSZ".toList.map Char.toNat

/-- `IsValidClassName(s, type, separator)`. -/
def isValidClassName (s : List Nat) (type : ClassNameType) (separator : Nat) : Bool :=
  let arrayCount := (s.takeWhile (· == '['.toNat)).length
  let s := s.drop arrayCount
  if arrayCount > 255 then false
  else
    let type := if arrayCount ≠ 0 then .kDescriptor else type
    if type = .kDescriptor then
      let c := deref s
      if c ∈ primitiveDescriptors then deref s.tail == 0
      else if c = 'V'.toNat then arrayCount == 0 && deref s.tail == 0
      else if c = 'L'.toNat then isValidClassNameLoop type separator s.length true s.tail
      else false
    else isValidClassNameLoop type separator (s.length + 1) true s

/-- `IsValidDescriptor`. -/
def isValidDescriptor (s : List Nat) : Bool := isValidClassName s .kDescriptor '/'.toNat

end Art

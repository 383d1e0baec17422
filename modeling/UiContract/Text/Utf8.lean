/-!
Texts as bytes. `decode?` accepts exactly well-formed UTF-8; `decodeLossy` reads any bytes and puts
the replacement character in place of every longest piece that begins a character but does not
finish it.
-/
namespace UiContract.Text

def encodeChar (character : Char) : List UInt8 :=
  let code := character.toNat
  if code < 0x80 then [code.toUInt8]
  else if code < 0x800 then [(0xC0 + code / 0x40).toUInt8, (0x80 + code % 0x40).toUInt8]
  else if code < 0x10000 then
    [(0xE0 + code / 0x1000).toUInt8, (0x80 + code / 0x40 % 0x40).toUInt8,
      (0x80 + code % 0x40).toUInt8]
  else
    [(0xF0 + code / 0x40000).toUInt8, (0x80 + code / 0x1000 % 0x40).toUInt8,
      (0x80 + code / 0x40 % 0x40).toUInt8, (0x80 + code % 0x40).toUInt8]

def charSize (character : Char) : Nat :=
  let code := character.toNat
  if code < 0x80 then 1 else if code < 0x800 then 2 else if code < 0x10000 then 3 else 4

def encode (characters : List Char) : List UInt8 :=
  characters.flatMap encodeChar

def byteSize (characters : List Char) : Nat :=
  characters.foldr (fun character total => charSize character + total) 0

/-- Where a reader stands between the bytes of one character: the bits read so far, the number of
bytes still owed, and the least and greatest value of the next one. -/
structure Pending where
  bits : Nat
  owed : Nat
  least : Nat
  greatest : Nat

/-- What the first byte of a character asks for: nothing more, more bytes, or no character at all. -/
def leadByte (byte : Nat) : Option Pending :=
  if byte < 0xC2 then none
  else if byte ≤ 0xDF then some ⟨byte - 0xC0, 1, 0x80, 0xBF⟩
  else if byte == 0xE0 then some ⟨0, 2, 0xA0, 0xBF⟩
  else if byte == 0xED then some ⟨0xD, 2, 0x80, 0x9F⟩
  else if byte ≤ 0xEF then some ⟨byte - 0xE0, 2, 0x80, 0xBF⟩
  else if byte == 0xF0 then some ⟨0, 3, 0x90, 0xBF⟩
  else if byte ≤ 0xF3 then some ⟨byte - 0xF0, 3, 0x80, 0xBF⟩
  else if byte == 0xF4 then some ⟨4, 3, 0x80, 0x8F⟩
  else none

def Pending.take (pending : Pending) (byte : Nat) : Option Pending :=
  if pending.least ≤ byte && byte ≤ pending.greatest then
    some ⟨pending.bits * 0x40 + (byte - 0x80), pending.owed - 1, 0x80, 0xBF⟩
  else none

structure Decoding where
  pending : Option Pending
  read : List (Option Char)

def Decoding.begin (read : List (Option Char)) (byte : UInt8) : Decoding :=
  if byte.toNat < 0x80 then ⟨none, some (Char.ofNat byte.toNat) :: read⟩
  else match leadByte byte.toNat with
    | none => ⟨none, none :: read⟩
    | some next => ⟨some next, read⟩

/-- One more byte. A byte that does not continue a character begins the next one. -/
def Decoding.next (decoding : Decoding) (byte : UInt8) : Decoding :=
  match decoding.pending with
  | none => Decoding.begin decoding.read byte
  | some pending => match pending.take byte.toNat with
      | none => Decoding.begin (none :: decoding.read) byte
      | some next =>
          if next.owed == 0 then ⟨none, some (Char.ofNat next.bits) :: decoding.read⟩
          else ⟨some next, decoding.read⟩

def Decoding.finish (decoding : Decoding) : List (Option Char) :=
  (match decoding.pending with
    | none => decoding.read
    | some _ => none :: decoding.read).reverse

def decodeEach (bytes : List UInt8) : List (Option Char) :=
  (bytes.foldl Decoding.next ⟨none, []⟩).finish

def decode? (bytes : List UInt8) : Option (List Char) :=
  (decodeEach bytes).mapM id

def decodeLossy (bytes : List UInt8) : List Char :=
  (decodeEach bytes).map fun character => character.getD '\uFFFD'

end UiContract.Text

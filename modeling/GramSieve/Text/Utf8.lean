namespace GramSieve.Text

/-!
# Bytes as text

* `Utf8.encode` — the bytes of a text.
* `Utf8.next` — the first character of a byte string, or how many bytes at its start are none.
* `Utf8.decode` — the text, or where the bytes stop being one.
* `Utf8.decodeLossy` — the text with a replacement character for each ill-formed part.
-/

namespace Utf8

/-- The bytes of the characters `cs`. -/
def encode (cs : List Char) : List UInt8 := cs.flatMap String.utf8EncodeChar

/-- What a byte string starts with. -/
inductive Start where
  /-- A character of `size` bytes. -/
  | char (c : Char) (size : Nat)
  /-- Bytes that start no character, whatever follows. -/
  | bad (size : Nat)
  /-- The start of a character that is cut off by the end. -/
  | short (size : Nat)
  deriving Repr, DecidableEq

/-- Whether a byte continues a character. -/
def isContinuation (b : UInt8) : Bool := 0x80 ≤ b && b < 0xC0

/-- The low six bits of a byte. -/
def low (b : UInt8) : Nat := b.toNat % 64

/-- Whether `b` may be the second byte of a character that starts with `a`. -/
def isSecond (a b : UInt8) : Bool :=
  if a < 0xC2 then false
  else if a < 0xE0 then isContinuation b
  else if a = 0xE0 then 0xA0 ≤ b && b < 0xC0
  else if a = 0xED then 0x80 ≤ b && b < 0xA0
  else if a < 0xF0 then isContinuation b
  else if a = 0xF0 then 0x90 ≤ b && b < 0xC0
  else if a < 0xF4 then isContinuation b
  else if a = 0xF4 then 0x80 ≤ b && b < 0x90
  else false

/-- How many bytes a character takes that starts with `a`, if one does. -/
def lengthOf (a : UInt8) : Option Nat :=
  if a < 0x80 then some 1
  else if a < 0xC2 then none
  else if a < 0xE0 then some 2
  else if a < 0xF0 then some 3
  else if a < 0xF5 then some 4
  else none

/-- What a byte string that starts with the byte `a` starts with. -/
def next (a : UInt8) (rest : List UInt8) : Start :=
  match lengthOf a with
  | none => .bad 1
  | some length =>
    if length = 1 then .char (Char.ofNat a.toNat) 1
    else
      match rest with
      | [] => .short 1
      | b :: rest =>
        if isSecond a b then
          if length = 2 then .char (Char.ofNat ((a.toNat % 32) * 64 + low b)) 2
          else
            match rest with
            | [] => .short 2
            | c :: rest =>
              if isContinuation c then
                if length = 3 then
                  .char (Char.ofNat ((a.toNat % 16) * 4096 + low b * 64 + low c)) 3
                else
                  match rest with
                  | [] => .short 3
                  | d :: _ =>
                    if isContinuation d then
                      .char (Char.ofNat
                        ((a.toNat % 8) * 262144 + low b * 4096 + low c * 64 + low d)) 4
                    else .bad 3
              else .bad 2
        else .bad 1

/-- Where a byte string stops being text. -/
structure Fault where
  /-- How many bytes before are text. -/
  validUpTo : Nat
  /-- How many bytes are ill-formed, or `none` if the end cuts a character off. -/
  length : Option Nat
  deriving Repr, DecidableEq

/-- The wording of a fault. -/
def Fault.message (f : Fault) : String :=
  match f.length with
  | some n => s!"invalid utf-8 sequence of {n} bytes from index {f.validUpTo}"
  | none => s!"incomplete utf-8 byte sequence from index {f.validUpTo}"

/-- The replacement character. -/
def replacement : Char := Char.ofNat 0xFFFD

/-- The characters of a byte string, with one replacement character for each ill-formed part. The
first `skip` bytes belong to the character before them. -/
def decodeLossyFrom (skip : Nat) : List UInt8 → List Char
  | [] => []
  | a :: rest =>
    match skip with
    | skip + 1 => decodeLossyFrom skip rest
    | 0 =>
      match next a rest with
      | .char c size => c :: decodeLossyFrom (size - 1) rest
      | .bad size => replacement :: decodeLossyFrom (size - 1) rest
      | .short size => replacement :: decodeLossyFrom (size - 1) rest

/-- The characters of a byte string, with one replacement character for each ill-formed part. -/
def decodeLossy (bytes : List UInt8) : List Char := decodeLossyFrom 0 bytes

/-- The characters of a byte string of which the first `index` bytes were read and `skip` more belong
to the character before them. -/
def decodeFrom (index skip : Nat) : List UInt8 → Except Fault (List Char)
  | [] => .ok []
  | a :: rest =>
    match skip with
    | skip + 1 => decodeFrom (index + 1) skip rest
    | 0 =>
      match next a rest with
      | .char c size => (decodeFrom (index + 1) (size - 1) rest).map (c :: ·)
      | .bad size => .error { validUpTo := index, length := some size }
      | .short _ => .error { validUpTo := index, length := none }

/-- The characters of a byte string, if it is text. -/
def decode (bytes : List UInt8) : Except Fault (List Char) := decodeFrom 0 0 bytes

end Utf8

end GramSieve.Text

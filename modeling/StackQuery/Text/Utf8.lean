/-!
# Decoding UTF-8

Bytes are read as characters and ill-formed parts. An ill-formed part is as long as the bytes that begin
some well-formed sequence, or one byte. A lenient reader puts the replacement character for each such
part; a strict one refuses the first.
-/
namespace StackQuery.Utf8

/-- What is wrong with an ill-formed part. -/
inductive Fault where
  | badStart
  /-- The sequence goes on with a byte that does not belong to it. -/
  | badContinuation
  | truncated
  deriving DecidableEq, Repr

def Fault.message : Fault → String
  | .badStart => "invalid start byte"
  | .badContinuation => "invalid continuation byte"
  | .truncated => "unexpected end of data"

/-- A part of a text of bytes. -/
inductive Part where
  | char (c : Char)
  | ill (fault : Fault) (bytes : List UInt8)
  deriving DecidableEq, Repr

/-- A sequence that was begun: the bytes so far from the last on, the value of their bits, how many bytes
are to come, and the bounds of the next one. -/
structure Begun where
  bytes : List UInt8
  value : Nat
  missing : Nat
  lower : Nat
  upper : Nat

/-- What a byte is at the beginning of a sequence. The bounds of the second byte rule out surrogates,
values beyond the last character and sequences longer than needed. -/
def start (b : UInt8) : Part ⊕ Begun :=
  let n := b.toNat
  if n < 0x80 then .inl (.char (Char.ofNat n))
  else if 0xC2 ≤ n && n ≤ 0xDF then .inr ⟨[b], n - 0xC0, 1, 0x80, 0xBF⟩
  else if n == 0xE0 then .inr ⟨[b], 0, 2, 0xA0, 0xBF⟩
  else if n == 0xED then .inr ⟨[b], 13, 2, 0x80, 0x9F⟩
  else if 0xE1 ≤ n && n ≤ 0xEF then .inr ⟨[b], n - 0xE0, 2, 0x80, 0xBF⟩
  else if n == 0xF0 then .inr ⟨[b], 0, 3, 0x90, 0xBF⟩
  else if n == 0xF4 then .inr ⟨[b], 4, 3, 0x80, 0x8F⟩
  else if 0xF1 ≤ n && n ≤ 0xF3 then .inr ⟨[b], n - 0xF0, 3, 0x80, 0xBF⟩
  else .inl (.ill .badStart [b])

def begin (b : UInt8) : List Part × Option Begun :=
  match start b with
  | .inl part => ([part], none)
  | .inr s => ([], some s)

def step (b : UInt8) : Option Begun → List Part × Option Begun
  | none => begin b
  | some s =>
    if s.lower ≤ b.toNat && b.toNat ≤ s.upper then
      let value := s.value * 64 + (b.toNat - 0x80)
      if s.missing == 1 then ([.char (Char.ofNat value)], none)
      else ([], some ⟨b :: s.bytes, value, s.missing - 1, 0x80, 0xBF⟩)
    else
      let (parts, s') := begin b
      (.ill .badContinuation s.bytes.reverse :: parts, s')

def partsFrom : Option Begun → List UInt8 → List Part
  | none, [] => []
  | some s, [] => [.ill .truncated s.bytes.reverse]
  | s, b :: rest =>
    let (parts, s) := step b s
    parts ++ partsFrom s rest

def parts (bytes : List UInt8) : List Part := partsFrom none bytes

def replacement : Char := '\uFFFD'

def decodeLossy (bytes : List UInt8) : List Char :=
  (parts bytes).map fun
    | .char c => c
    | .ill .. => replacement

structure Ill where
  fault : Fault
  position : Nat
  bytes : List UInt8
  deriving DecidableEq, Repr

def Ill.message (e : Ill) : String :=
  let hex (b : UInt8) : String :=
    String.ofList ((if b.toNat < 16 then ['0'] else []) ++ Nat.toDigits 16 b.toNat)
  match e.bytes with
  | [b] => "'utf-8' codec can't decode byte 0x" ++ hex b ++ " in position " ++ toString e.position ++
      ": " ++ e.fault.message
  | bytes => "'utf-8' codec can't decode bytes in position " ++ toString e.position ++ "-" ++
      toString (e.position + bytes.length - 1) ++ ": " ++ e.fault.message

/-- The characters of parts up to the first ill-formed one, which is refused. The position counts bytes. -/
def wellFormed : (position : Nat) → List Part → Except Ill (List Char)
  | _, [] => .ok []
  | position, .ill fault bytes :: _ => .error ⟨fault, position, bytes⟩
  | position, .char c :: rest => (wellFormed (position + c.utf8Size) rest).map (c :: ·)

def decode (bytes : List UInt8) : Except Ill (List Char) := wellFormed 0 (parts bytes)

end StackQuery.Utf8

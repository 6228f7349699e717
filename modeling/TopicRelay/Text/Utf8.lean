/-
UTF-8 over lists of octets. A byte sequence is cut into scalars and broken pieces, where a broken
piece is the longest start of a well-formed sequence (at least one octet), so both the strict
decoder, which reports where and how the text breaks, and the lossy one, which writes U+FFFD for
each broken piece, read the same cut.
-/

namespace TopicRelay.Text

/-- A byte sequence. -/
abbrev Octets := List UInt8

namespace Utf8

/-- The octets of a text. -/
def encodeChars (cs : List Char) : Octets :=
  cs.flatMap String.utf8EncodeChar

/-- The octets of a text. -/
def encode (s : String) : Octets :=
  encodeChars s.toList

/-- One piece of a cut byte sequence. -/
inductive Piece where
  /-- A well-formed sequence. -/
  | scalar (c : Char)
  /-- `length` octets that start a well-formed sequence which the next octet does not continue. -/
  | broken (length : Nat)
  /-- `length` octets at the end of the input that start a well-formed sequence. -/
  | cut (length : Nat)
  deriving Repr, DecidableEq

/-- The number of octets in the sequence that an octet starts, 0 if it starts none. -/
def width (a : UInt8) : Nat :=
  if a < 0x80 then 1
  else if a < 0xC2 then 0
  else if a < 0xE0 then 2
  else if a < 0xF0 then 3
  else if a < 0xF5 then 4
  else 0

/-- Whether an octet continues a sequence. -/
def isTail (b : UInt8) : Bool :=
  0x80 ≤ b && b ≤ 0xBF

/-- Whether `b` may stand second after `a`: overlong forms, surrogates and code points above
U+10FFFF are ruled out here. -/
def isSecond (a b : UInt8) : Bool :=
  if a == 0xE0 then 0xA0 ≤ b && b ≤ 0xBF
  else if a == 0xED then 0x80 ≤ b && b ≤ 0x9F
  else if a == 0xF0 then 0x90 ≤ b && b ≤ 0xBF
  else if a == 0xF4 then 0x80 ≤ b && b ≤ 0x8F
  else isTail b

/-- The scalar of a two-octet sequence. -/
def scalar2 (a b : UInt8) : Char :=
  Char.ofNat ((a.toNat - 0xC0) * 64 + (b.toNat - 0x80))

/-- The scalar of a three-octet sequence. -/
def scalar3 (a b c : UInt8) : Char :=
  Char.ofNat (((a.toNat - 0xE0) * 64 + (b.toNat - 0x80)) * 64 + (c.toNat - 0x80))

/-- The scalar of a four-octet sequence. -/
def scalar4 (a b c d : UInt8) : Char :=
  Char.ofNat ((((a.toNat - 0xF0) * 64 + (b.toNat - 0x80)) * 64 + (c.toNat - 0x80)) * 64
    + (d.toNat - 0x80))

/-- The first piece of `a :: rest`, and what follows it. -/
def piece (a : UInt8) (rest : Octets) : Piece × Octets :=
  match width a, rest with
  | 0, _ => (.broken 1, rest)
  | 1, _ => (.scalar (Char.ofNat a.toNat), rest)
  | _, [] => (.cut 1, [])
  | 2, b :: r => if isTail b then (.scalar (scalar2 a b), r) else (.broken 1, rest)
  | 3, b :: r =>
    if isSecond a b then
      match r with
      | [] => (.cut 2, [])
      | c :: r' => if isTail c then (.scalar (scalar3 a b c), r') else (.broken 2, r)
    else (.broken 1, rest)
  | _, b :: r =>
    if isSecond a b then
      match r with
      | [] => (.cut 2, [])
      | c :: r' =>
        if isTail c then
          match r' with
          | [] => (.cut 3, [])
          | d :: r'' => if isTail d then (.scalar (scalar4 a b c d), r'') else (.broken 3, r')
        else (.broken 2, r)
    else (.broken 1, rest)

/-- A piece takes at least the first octet. -/
theorem length_piece_le (a : UInt8) (rest : Octets) : (piece a rest).2.length ≤ rest.length := by
  unfold piece
  split <;> (repeat' split) <;> simp <;> omega

/-- The whole input as pieces, in order. -/
def pieces : Octets → List Piece
  | [] => []
  | a :: rest => (piece a rest).1 :: pieces (piece a rest).2
termination_by bs => bs.length
decreasing_by
  have := length_piece_le a rest
  simp; omega

/-- Where and how a byte sequence fails to be UTF-8. -/
inductive Fault where
  /-- `length` octets from `index` on start a sequence that the next octet breaks. -/
  | broken (length index : Nat)
  /-- The input ends inside a sequence that starts at `index`. -/
  | cut (index : Nat)
  deriving Repr, DecidableEq

/-- The text of a fault. -/
def Fault.message : Fault → String
  | .broken length index =>
    "invalid utf-8 sequence of " ++ toString length ++ " bytes from index " ++ toString index
  | .cut index => "incomplete utf-8 byte sequence from index " ++ toString index

/-- The scalars of a cut, unless a broken piece stands among them; `index` counts the octets
before the cut. -/
def scalars (index : Nat) : List Piece → Except Fault (List Char)
  | [] => .ok []
  | .scalar c :: ps => (scalars (index + (String.utf8EncodeChar c).length) ps).map (c :: ·)
  | .broken n :: _ => .error (.broken n index)
  | .cut _ :: _ => .error (.cut index)

/-- Reads a byte sequence as UTF-8. -/
def decode (bs : Octets) : Except Fault String :=
  (scalars 0 (pieces bs)).map String.ofList

/-- Reads a byte sequence as UTF-8, with U+FFFD for each broken piece. -/
def decodeLossy (bs : Octets) : String :=
  String.ofList <| (pieces bs).map fun
    | .scalar c => c
    | _ => Char.ofNat 0xFFFD

end Utf8

/-! ## One octet for each character -/

namespace Latin1

/-- Reads each octet as the code point of the same number. -/
def decode (bs : Octets) : String :=
  String.ofList (bs.map fun b => Char.ofNat b.toNat)

/-- The octets of a text all of whose code points are below 256. -/
def encode? (s : String) : Option Octets :=
  s.toList.mapM fun c => if c.toNat < 256 then some c.toNat.toUInt8 else none

end Latin1

end TopicRelay.Text

set_option autoImplicit false

namespace Leaderboard.Text

def isContinuation (b : UInt8) : Bool := 0x80 ≤ b && b ≤ 0xBF

-- Overlong forms, surrogates and code points beyond the last one are left out.
def secondByteRange (first : UInt8) : UInt8 × UInt8 :=
  if first == 0xE0 then (0xA0, 0xBF)
  else if first == 0xED then (0x80, 0x9F)
  else if first == 0xF0 then (0x90, 0xBF)
  else if first == 0xF4 then (0x80, 0x8F)
  else (0x80, 0xBF)

def sequenceLength (first : UInt8) : Nat :=
  if first < 0x80 then 1
  else if 0xC2 ≤ first && first ≤ 0xDF then 2
  else if 0xE0 ≤ first && first ≤ 0xEF then 3
  else if 0xF0 ≤ first && first ≤ 0xF4 then 4
  else 0

def continuation (first : UInt8) (rest : List UInt8) : List UInt8 :=
  match rest with
  | [] => []
  | second :: more =>
    let (low, high) := secondByteRange first
    if low ≤ second && second ≤ high then
      second :: (more.take (sequenceLength first - 2)).takeWhile isContinuation
    else []

def codePoint (first : UInt8) (following : List UInt8) : Nat :=
  let lead := match following.length with
    | 0 => first.toNat
    | 1 => first.toNat % 32
    | 2 => first.toNat % 16
    | _ => first.toNat % 8
  following.foldl (fun n b => n * 64 + b.toNat % 64) lead

def decodeStep (first : UInt8) (rest : List UInt8) : Option Char × Nat :=
  match sequenceLength first with
  | 0 => (none, 0)
  | 1 => (some (Char.ofNat first.toNat), 0)
  | n =>
    let following := (continuation first rest).take (n - 1)
    if following.length + 1 == n then
      (some (Char.ofNat (codePoint first following)), following.length)
    else (none, following.length)

-- The second argument counts bytes that belong to the sequence before.
def decodeFrom : List UInt8 → Nat → List (Option Char)
  | [], _ => []
  | _ :: rest, skip + 1 => decodeFrom rest skip
  | first :: rest, 0 =>
    let (c, taken) := decodeStep first rest
    c :: decodeFrom rest taken

def strictChars : List (Option Char) → List Char
  | [] => []
  | none :: _ => [Char.ofNat 0]
  | some c :: rest => c :: strictChars rest

-- For a reader that accepts no NUL: an invalid sequence reads as NUL.
def decodeStrict (bytes : List UInt8) : List Char := strictChars (decodeFrom bytes 0)

def decode? (bytes : List UInt8) : Option String :=
  ((decodeFrom bytes 0).mapM id).map String.ofList

def decodeLenient (bytes : List UInt8) : List Char :=
  (decodeFrom bytes 0).map (fun c => c.getD (Char.ofNat 0xFFFD))

def encode (text : String) : List UInt8 := text.toUTF8.toList

end Leaderboard.Text

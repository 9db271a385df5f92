set_option autoImplicit false

namespace Leaderboard.Url.Punycode

def digit (n : Nat) : Char := if n < 26 then Char.ofNat (97 + n) else Char.ofNat (22 + n)

def digitValue? (c : Char) : Option Nat :=
  if 'a' ≤ c && c ≤ 'z' then some (c.toNat - 97)
  else if 'A' ≤ c && c ≤ 'Z' then some (c.toNat - 65)
  else if '0' ≤ c && c ≤ '9' then some (c.toNat - 22)
  else none

def threshold (k bias : Nat) : Nat :=
  if k ≤ bias then 1 else if bias + 26 ≤ k then 26 else k - bias

-- Divide by 35 until the rest is at most 455, counting 36 for every division.
def settle : Nat → Nat → Nat → Nat × Nat
  | 0, delta, k => (delta, k)
  | fuel + 1, delta, k => if 455 < delta then settle fuel (delta / 35) (k + 36) else (delta, k)

def adapt (delta count : Nat) (first : Bool) : Nat :=
  let scaled := if first then delta / 700 else delta / 2
  let (rest, k) := settle 64 (scaled + scaled / count) 0
  k + 36 * rest / (rest + 38)

def distance : Nat → Nat → Nat → Nat → List Char
  | 0, _, _, _ => []
  | fuel + 1, q, k, bias =>
    let t := threshold k bias
    if q < t then [digit q]
    else digit (t + (q - t) % (36 - t)) :: distance fuel ((q - t) / (36 - t)) (k + 36) bias

structure State where
  delta : Nat
  bias : Nat
  handled : Nat
  written : List Char

def pass (basic n : Nat) (s : State) (c : Char) : State :=
  if c.toNat < n then { s with delta := s.delta + 1 }
  else if c.toNat = n then
    { delta := 0
      bias := adapt s.delta (s.handled + 1) (s.handled == basic)
      handled := s.handled + 1
      written := s.written ++ distance 64 s.delta 36 s.bias }
  else s

-- The code point to look from is `n`.
def insertAll (label : List Char) (basic : Nat) : Nat → Nat → State → State
  | 0, _, s => s
  | fuel + 1, n, s =>
    match ((label.map Char.toNat).filter (n ≤ ·)).min? with
    | none => s
    | some m =>
      let entered := { s with delta := s.delta + (m - n) * (s.handled + 1) }
      let after := label.foldl (pass basic m) entered
      insertAll label basic fuel (m + 1) { after with delta := after.delta + 1 }

def encode (label : List Char) : List Char :=
  let basic := label.filter (fun c => c.toNat < 128)
  let start : State := ⟨0, 72, basic.length, []⟩
  let s := insertAll label basic.length label.length 128 start
  basic ++ (if basic.isEmpty then [] else ['-']) ++ s.written

def readDistance : List Char → Nat → Nat → Nat → Nat → Option (Nat × List Char)
  | [], _, _, _, _ => none
  | c :: rest, k, bias, weight, sum =>
    match digitValue? c with
    | none => none
    | some d =>
      let t := threshold k bias
      let total := sum + d * weight
      if d < t then some (total, rest)
      else readDistance rest (k + 36) bias (weight * (36 - t)) total

def decodeAll : Nat → List Char → Nat → Nat → Nat → Bool → List Char → Option (List Char)
  | _, [], _, _, _, _, output => some output
  | 0, _, _, _, _, _, _ => none
  | fuel + 1, cs, n, i, bias, first, output =>
    match readDistance cs 36 bias 1 0 with
    | none => none
    | some (d, rest) =>
      let count := output.length + 1
      let place := i + d
      let m := n + place / count
      let spot := place % count
      if 0x10FFFF < m || (0xD800 ≤ m && m ≤ 0xDFFF) then none
      else
        decodeAll fuel rest m (spot + 1) (adapt d count first) false
          (output.take spot ++ Char.ofNat m :: output.drop spot)

def splitBasic (cs : List Char) : List Char × List Char :=
  let distances := (cs.reverse.takeWhile (· != '-')).reverse
  let before := cs.take (cs.length - distances.length)
  (before.dropLast, distances)

def decode? (cs : List Char) : Option (List Char) :=
  let (basic, distances) := splitBasic cs
  decodeAll distances.length distances 128 0 72 true basic

end Leaderboard.Url.Punycode

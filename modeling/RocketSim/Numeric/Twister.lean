import RocketSim.Numeric.Binary64
import RocketSim.Numeric.Sha512

/-!
# The Mersenne Twister

The 32-bit Mersenne Twister MT19937 and the two ways it is seeded: from one word, by the
linear recurrence of its reference implementation, and from an array of words, which is how
a seed integer of any size enters it.  On top of the raw words sit the draws the simulator
uses: a binary64 number in `[0, 1)` made of 53 random bits, random bits below a bound, and
normal deviates by the Box-Muller pair with its cached second value.
-/

namespace RocketSim


/-- The generator state: 624 words and the position of the next one to hand out. -/
structure Twister where
  words : Array UInt32
  index : Nat
  deriving Inhabited

namespace Twister

/-- The number of state words. -/
def size : Nat := 624

/-- The middle offset of the recurrence. -/
def shift : Nat := 397

/-- The word at a position, zero outside the state. -/
def word (a : Array UInt32) (i : Nat) : UInt32 := a.getD i 0

/-- Regenerates all 624 words; each new word uses the words after it, some already new,
exactly as the in-place reference loop does. -/
def twist (a : Array UInt32) : Array UInt32 :=
  (List.range size).foldl (fun a i =>
    let y := (word a i &&& 0x80000000) ||| (word a ((i + 1) % size) &&& 0x7fffffff)
    let mag : UInt32 := if y &&& 1 == 0 then 0 else 0x9908b0df
    a.set! i (word a ((i + shift) % size) ^^^ (y >>> 1) ^^^ mag)) a

/-- The tempering of an output word. -/
def temper (y : UInt32) : UInt32 :=
  let y := y ^^^ (y >>> 11)
  let y := y ^^^ ((y <<< 7) &&& 0x9d2c5680)
  let y := y ^^^ ((y <<< 15) &&& 0xefc60000)
  y ^^^ (y >>> 18)

/-- The next 32-bit output. -/
def next (g : Twister) : UInt32 × Twister :=
  let g := if g.index ≥ size then { words := twist g.words, index := 0 } else g
  (temper (word g.words g.index), { g with index := g.index + 1 })

/-- The state words from one seed word, by the reference linear recurrence. -/
def initWords (s : UInt32) : Array UInt32 :=
  (List.range (size - 1)).foldl (fun a i =>
    let prev := word a i
    a.push ((1812433253 : UInt32) * (prev ^^^ (prev >>> 30)) + (i + 1).toUInt32)) #[s]

/-- A generator seeded with one word. -/
def ofWord (s : UInt32) : Twister := { words := initWords s, index := size }

/-- A generator seeded with an array of words (the key must not be empty). -/
def ofKey (key : List UInt32) : Twister :=
  let n := key.length
  let first : Array UInt32 × Nat × Nat :=
    (List.range (max size n)).foldl (fun (a, i, j) _ =>
      let prev := word a (i - 1)
      let v := (word a i ^^^ ((prev ^^^ (prev >>> 30)) * (1664525 : UInt32))) + key.getD j 0 + j.toUInt32
      let a := a.set! i v
      let i := i + 1
      let j := if j + 1 ≥ n then 0 else j + 1
      if i ≥ size then (a.set! 0 (word a (size - 1)), 1, j) else (a, i, j))
      (initWords 19650218, 1, 0)
  let (a, i, _) := first
  let second : Array UInt32 × Nat :=
    (List.range (size - 1)).foldl (fun (a, i) _ =>
      let prev := word a (i - 1)
      let v := (word a i ^^^ ((prev ^^^ (prev >>> 30)) * (1566083941 : UInt32))) - i.toUInt32
      let a := a.set! i v
      let i := i + 1
      if i ≥ size then (a.set! 0 (word a (size - 1)), 1) else (a, i)) (a, i)
  { words := second.1.set! 0 0x80000000, index := size }

/-- The 32-bit words of a natural number, least significant first; zero is one zero word. -/
def keyOfNat (n : Nat) (fuel : Nat := 64) : List UInt32 :=
  match fuel with
  | 0 => []
  | fuel + 1 =>
    if n < Nat.pow 2 32 then [n.toUInt32]
    else (n % Nat.pow 2 32).toUInt32 :: keyOfNat (n / Nat.pow 2 32) fuel

/-- A generator seeded with an integer, by the words of its magnitude. -/
def ofInt (n : Int) : Twister := ofKey (keyOfNat n.natAbs)

/-- A binary64 number in `[0, 1)` from 53 random bits. -/
def uniform (g : Twister) : Float × Twister :=
  let (a, g) := g.next
  let (b, g) := g.next
  let hi := (a >>> 5).toNat
  let lo := (b >>> 6).toNat
  (Float.ofNat (hi * 67108864 + lo) * (1.0 / 9007199254740992.0), g)

/-- `k` random bits, `k ≤ 32`, from the top of one output word. -/
def bits32 (g : Twister) (k : Nat) : Nat × Twister :=
  let (a, g) := g.next
  ((a >>> (32 - k).toUInt32).toNat, g)

/-- `k` random bits for any `k`, assembled from 32-bit words, least significant first;
the last word contributes its top bits. -/
def bits (g : Twister) (k : Nat) : Nat × Twister :=
  if k ≤ 32 then g.bits32 k
  else
    let words := (k + 31) / 32
    let (acc, g, _) := (List.range words).foldl (fun (acc, g, left) i =>
      let (a, g) := g.next
      let r := if left < 32 then (a >>> (32 - left).toUInt32).toNat else a.toNat
      (acc + r * Nat.pow 2 (32 * i), g, left - 32)) ((0 : Nat), g, k)
    (acc, g)

/-- A uniformly random natural number below a positive bound, by rejection of random bits
of the bound's width (at most `fuel` tries). -/
def below (g : Twister) (n : Nat) (fuel : Nat := 10000) : Nat × Twister :=
  match fuel with
  | 0 => (0, g)
  | fuel + 1 =>
    let (r, g) := g.bits (Nat.log2 n + 1)
    if r < n then (r, g) else below g n fuel

end Twister

/-- A generator together with the spare normal deviate of its last Box-Muller pair. -/
structure RandomSource where
  gen : Twister
  spare : Option Float := none
  deriving Inhabited

namespace RandomSource

/-- A source seeded with an integer. -/
def ofInt (n : Int) : RandomSource := { gen := Twister.ofInt n }

/-- A source seeded with a text: the seed is the integer whose big-endian bytes are the
text's UTF-8 bytes followed by their SHA-512 digest. -/
def ofText (s : String) : RandomSource :=
  let bytes := s.toUTF8.toList
  let all := bytes ++ Sha512.digest bytes
  let n := all.foldl (fun n b => 256 * n + b.toNat) 0
  { gen := Twister.ofKey (Twister.keyOfNat n (all.length / 4 + 2)) }

/-- A binary64 number in `[0, 1)`. -/
def uniform (r : RandomSource) : Float × RandomSource :=
  let (x, g) := r.gen.uniform
  (x, { r with gen := g })

/-- A uniformly random natural number below a positive bound. -/
def below (r : RandomSource) (n : Nat) : Nat × RandomSource :=
  let (x, g) := r.gen.below n
  (x, { r with gen := g })

/-- A normal deviate with mean `mu` and standard deviation `sigma`: the first of a
Box-Muller pair, or the spare second one when there is one. -/
def gauss (r : RandomSource) (mu sigma : Float) : Float × RandomSource :=
  match r.spare with
  | some z => (mu + z * sigma, { r with spare := none })
  | none =>
    let (u1, r) := r.uniform
    let (u2, r) := r.uniform
    let x2pi := u1 * (2.0 * 3.141592653589793)
    let g2rad := Float.sqrt (-2.0 * Float.log (1.0 - u2))
    let z := Float.cos x2pi * g2rad
    (mu + z * sigma, { r with spare := some (Float.sin x2pi * g2rad) })

end RandomSource

end RocketSim

/-!
# Listing order of a set of keys

A definition lists the keys and the dictionaries directly inside a dictionary as a set of
texts, and a set of texts lists its members in the order of its hash table, not in the order
they were added.  This module computes that order.

The table is open addressing over a power-of-two number of slots, eight at first.  A text
goes to the slot its hash selects; when that slot is taken, the nine slots after it are
tried while they lie inside the table, and then the next slot is `5 i + 1 + p` (modulo the
size), where `p` is the hash shifted right by five more bits at each step.  Once the table
is three fifths full it grows to the smallest power of two above four times its members,
and the members move over in slot order.

The hash of a text is SipHash-1-3 with a zero key over the text's compact code units: one
byte a character when every character is below 256, two little-endian bytes when every
character is below 65536, four little-endian bytes otherwise.  The empty text hashes to
zero, and a hash of all ones is replaced by the one below it.
-/

namespace RocketSim

namespace KeySet

/-- Rotates a 64-bit word left by `b` bits. -/
def rotl (x b : UInt64) : UInt64 := (x <<< b) ||| (x >>> (64 - b))

/-- The four state words of SipHash. -/
structure SipState where
  v0 : UInt64
  v1 : UInt64
  v2 : UInt64
  v3 : UInt64

/-- One SipHash round. -/
def SipState.round (s : SipState) : SipState :=
  let v0 := s.v0 + s.v1
  let v2 := s.v2 + s.v3
  let v1 := rotl s.v1 13 ^^^ v0
  let v3 := rotl s.v3 16 ^^^ v2
  let v0 := rotl v0 32
  let v2 := v2 + v1
  let v0 := v0 + v3
  let v1 := rotl v1 17 ^^^ v2
  let v3 := rotl v3 21 ^^^ v0
  let v2 := rotl v2 32
  ⟨v0, v1, v2, v3⟩

/-- Absorbs one message word with a single compression round. -/
def SipState.absorb (s : SipState) (m : UInt64) : SipState :=
  let t := (SipState.mk s.v0 s.v1 s.v2 (s.v3 ^^^ m)).round
  ⟨t.v0 ^^^ m, t.v1, t.v2, t.v3⟩

/-- The little-endian word of up to eight bytes. -/
def word (bs : List UInt8) : UInt64 :=
  bs.foldr (fun b acc => (acc <<< 8) ||| b.toUInt64) 0

/-- Absorbs the bytes eight at a time, then the last partial word with the length of the
whole message in its top byte. -/
def absorbAll (s : SipState) (len : Nat) : List UInt8 → SipState
  | b0 :: b1 :: b2 :: b3 :: b4 :: b5 :: b6 :: b7 :: rest =>
    absorbAll (s.absorb (word [b0, b1, b2, b3, b4, b5, b6, b7])) len rest
  | tail => s.absorb (word tail ||| (len.toUInt64 <<< 56))

/-- SipHash-1-3 of a message with the zero key. -/
def sipHash13 (bs : List UInt8) : UInt64 :=
  let s : SipState := ⟨0x736f6d6570736575, 0x646f72616e646f6d, 0x6c7967656e657261,
    0x7465646279746573⟩
  let t := absorbAll s bs.length bs
  let f := (SipState.mk t.v0 t.v1 (t.v2 ^^^ 0xff) t.v3).round.round.round
  f.v0 ^^^ f.v1 ^^^ f.v2 ^^^ f.v3

/-- The little-endian bytes of a code unit of the given width. -/
def unitBytes (width : Nat) (c : Nat) : List UInt8 :=
  (List.range width).map fun i => (c / Nat.pow 256 i % 256).toUInt8

/-- The compact code units of a text, as bytes. -/
def textBytes (s : String) : List UInt8 :=
  let codes := s.toList.map (·.toNat)
  let top := codes.foldl max 0
  let width := if top < 256 then 1 else if top < 65536 then 2 else 4
  codes.flatMap (unitBytes width)

/-- The hash of a text, as the table uses it. -/
def hash (s : String) : UInt64 :=
  if s.isEmpty then 0
  else
    let h := sipHash13 (textBytes s)
    if h == 0xffffffffffffffff then 0xfffffffffffffffe else h

/-- A hash table of texts: each slot empty or holding a member and its hash. -/
abbrev Table := Array (Option (String × UInt64))

/-- Places a text along its probe sequence: in the first empty slot, or nowhere when an
equal text is met first.  The fuel bounds the steps of the sequence; the table is never
full, and once the shifted hash is zero the steps visit every slot, so the size plus the
thirteen shifts of a 64-bit hash always suffice. -/
def place (t : Table) (mask : Nat) (s : String) (h : UInt64) : Nat → Nat → UInt64 → Table
  | 0, _, _ => t
  | fuel + 1, i, perturb =>
    let run := if i + 9 ≤ mask then List.range 10 else [0]
    let found := run.findSome? fun j =>
      match t[i + j]? with
      | some none => some (some (i + j))
      | some (some (k, _)) => if k == s then some none else none
      | none => none
    match found with
    | some (some slot) => t.set! slot (some (s, h))
    | some none => t
    | none =>
      let p := perturb >>> 5
      place t mask s h fuel ((i * 5 + 1 + p.toNat) % (mask + 1)) p

/-- Adds a text to a table of `mask + 1` slots. -/
def insert (t : Table) (mask : Nat) (s : String) (h : UInt64) : Table :=
  place t mask s h (mask + 20) (h.toNat % (mask + 1)) h

/-- The members of a table in slot order. -/
def members (t : Table) : List (String × UInt64) := t.toList.filterMap id

/-- The number of slots a table grows to for a number of members. -/
def grownSize (used : Nat) : Nat := go used 8 64
where
  /-- Doubles the size until it exceeds four times the members. -/
  go (used size : Nat) : Nat → Nat
    | 0 => size
    | fuel + 1 => if size ≤ used * 4 then go used (size * 2) fuel else size

/-- A table of texts, with its mask and its number of members. -/
structure HashedSet where
  table : Table := Array.replicate 8 none
  mask : Nat := 7
  used : Nat := 0

/-- Adds a text to a set, growing the table once it is three fifths full. -/
def HashedSet.add (hs : HashedSet) (s : String) : HashedSet :=
  let h := hash s
  let t := insert hs.table hs.mask s h
  if (members t).length == hs.used then hs
  else
    let used := hs.used + 1
    if used * 5 < hs.mask * 3 then { table := t, mask := hs.mask, used }
    else
      let size := grownSize used
      let fresh : Table := Array.replicate size none
      let moved := (members t).foldl (fun acc (k, kh) => insert acc (size - 1) k kh) fresh
      { table := moved, mask := size - 1, used }

/-- The members of a set of texts built by adding the given texts in turn, in the order the
set lists them. -/
def listing (xs : List String) : List String :=
  (members (xs.foldl HashedSet.add {}).table).map (·.1)

end KeySet
end RocketSim

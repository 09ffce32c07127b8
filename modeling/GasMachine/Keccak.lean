import GasMachine.Word
/-
Keccak-256: the sponge over the 1600-bit permutation with a rate of 136 bytes, a capacity of 64, and a single pad bit
after the message.

The state is 25 lanes of 64 bits in five rows, named b, g, k, m and s, and five columns, named a, e, i, o and u. Lanes
are filled row by row. Bytes enter and leave a lane with the least significant one first.
-/
namespace GasMachine.Keccak

/-- the sponge state -/
structure Lanes where
  (ba be bi bo bu : UInt64)
  (ga ge gi go gu : UInt64)
  (ka ke ki ko ku : UInt64)
  (ma me mi mo mu : UInt64)
  (sa se si so su : UInt64)

/-- bytes absorbed per block -/
def rate : Nat := 136

/-- the constants that break the symmetry of the rounds -/
def roundConstants : List UInt64 :=
  [0x0000000000000001, 0x0000000000008082, 0x800000000000808A, 0x8000000080008000, 0x000000000000808B,
   0x0000000080000001, 0x8000000080008081, 0x8000000000008009, 0x000000000000008A, 0x0000000000000088,
   0x0000000080008009, 0x000000008000000A, 0x000000008000808B, 0x800000000000008B, 0x8000000000008089,
   0x8000000000008003, 0x8000000000008002, 0x8000000000000080, 0x000000000000800A, 0x800000008000000A,
   0x8000000080008081, 0x8000000000008080, 0x0000000080000001, 0x8000000080008008]

/-- rotation to the left by `n` bits, 0 < n < 64 -/
@[inline]
def rol (w n : UInt64) : UInt64 := (w <<< n) ||| (w >>> (64 - n))

/-- every lane takes in the parities of the two columns beside its own -/
def theta (l : Lanes) : Lanes :=
  let a := l.ba ^^^ l.ga ^^^ l.ka ^^^ l.ma ^^^ l.sa
  let e := l.be ^^^ l.ge ^^^ l.ke ^^^ l.me ^^^ l.se
  let i := l.bi ^^^ l.gi ^^^ l.ki ^^^ l.mi ^^^ l.si
  let o := l.bo ^^^ l.go ^^^ l.ko ^^^ l.mo ^^^ l.so
  let u := l.bu ^^^ l.gu ^^^ l.ku ^^^ l.mu ^^^ l.su
  let xa := u ^^^ rol e 1
  let xe := a ^^^ rol i 1
  let xi := e ^^^ rol o 1
  let xo := i ^^^ rol u 1
  let xu := o ^^^ rol a 1
  { ba := l.ba ^^^ xa, be := l.be ^^^ xe, bi := l.bi ^^^ xi, bo := l.bo ^^^ xo, bu := l.bu ^^^ xu,
    ga := l.ga ^^^ xa, ge := l.ge ^^^ xe, gi := l.gi ^^^ xi, go := l.go ^^^ xo, gu := l.gu ^^^ xu,
    ka := l.ka ^^^ xa, ke := l.ke ^^^ xe, ki := l.ki ^^^ xi, ko := l.ko ^^^ xo, ku := l.ku ^^^ xu,
    ma := l.ma ^^^ xa, me := l.me ^^^ xe, mi := l.mi ^^^ xi, mo := l.mo ^^^ xo, mu := l.mu ^^^ xu,
    sa := l.sa ^^^ xa, se := l.se ^^^ xe, si := l.si ^^^ xi, so := l.so ^^^ xo, su := l.su ^^^ xu }

/-- lanes are rotated, each by its own offset, and moved to their new places -/
def rhoPi (l : Lanes) : Lanes :=
  { ba := l.ba, be := rol l.ge 44, bi := rol l.ki 43, bo := rol l.mo 21, bu := rol l.su 14,
    ga := rol l.bo 28, ge := rol l.gu 20, gi := rol l.ka 3, go := rol l.me 45, gu := rol l.si 61,
    ka := rol l.be 1, ke := rol l.gi 6, ki := rol l.ko 25, ko := rol l.mu 8, ku := rol l.sa 18,
    ma := rol l.bu 27, me := rol l.ga 36, mi := rol l.ke 10, mo := rol l.mi 15, mu := rol l.so 56,
    sa := rol l.bi 62, se := rol l.go 55, si := rol l.ku 39, so := rol l.ma 41, su := rol l.se 2 }

/-- a lane combined with the two to its right in its row -/
@[inline]
def mix (x y z : UInt64) : UInt64 := x ^^^ (~~~y &&& z)

/-- each lane is combined with the two to its right in its row -/
def chi (l : Lanes) : Lanes :=
  { ba := mix l.ba l.be l.bi, be := mix l.be l.bi l.bo, bi := mix l.bi l.bo l.bu,
    bo := mix l.bo l.bu l.ba, bu := mix l.bu l.ba l.be,
    ga := mix l.ga l.ge l.gi, ge := mix l.ge l.gi l.go, gi := mix l.gi l.go l.gu,
    go := mix l.go l.gu l.ga, gu := mix l.gu l.ga l.ge,
    ka := mix l.ka l.ke l.ki, ke := mix l.ke l.ki l.ko, ki := mix l.ki l.ko l.ku,
    ko := mix l.ko l.ku l.ka, ku := mix l.ku l.ka l.ke,
    ma := mix l.ma l.me l.mi, me := mix l.me l.mi l.mo, mi := mix l.mi l.mo l.mu,
    mo := mix l.mo l.mu l.ma, mu := mix l.mu l.ma l.me,
    sa := mix l.sa l.se l.si, se := mix l.se l.si l.so, si := mix l.si l.so l.su,
    so := mix l.so l.su l.sa, su := mix l.su l.sa l.se }

/-- one round -/
def round (l : Lanes) (constant : UInt64) : Lanes :=
  let m := chi (rhoPi (theta l))
  { m with ba := m.ba ^^^ constant }

/-- the permutation -/
def permute (l : Lanes) : Lanes := roundConstants.foldl round l

/-- the message with its padding: a one bit, zeros, and a one bit at the end of the last block -/
def pad (message : Bytes) : Bytes :=
  let gap := rate - message.size % rate
  if gap = 1 then message.push 0x81
  else (message.push 0x01 ++ Array.replicate (gap - 2) 0).push 0x80

/-- one byte of a message, as the least significant one of a lane -/
@[inline]
def byteAt (bytes : Bytes) (i : Nat) : UInt64 := (bytes.getD i 0).toUInt64

/-- eight bytes from `start` on as a lane -/
def readLane (bytes : Bytes) (start : Nat) : UInt64 :=
  byteAt bytes start ||| (byteAt bytes (start + 1) <<< 8) ||| (byteAt bytes (start + 2) <<< 16) |||
    (byteAt bytes (start + 3) <<< 24) ||| (byteAt bytes (start + 4) <<< 32) ||| (byteAt bytes (start + 5) <<< 40) |||
    (byteAt bytes (start + 6) <<< 48) ||| (byteAt bytes (start + 7) <<< 56)

/-- one block mixed into the state -/
def absorb (bytes : Bytes) (l : Lanes) (block : Nat) : Lanes :=
  let word (i : Nat) : UInt64 := readLane bytes (rate * block + 8 * i)
  permute { l with
    ba := l.ba ^^^ word 0, be := l.be ^^^ word 1, bi := l.bi ^^^ word 2, bo := l.bo ^^^ word 3,
    bu := l.bu ^^^ word 4, ga := l.ga ^^^ word 5, ge := l.ge ^^^ word 6, gi := l.gi ^^^ word 7,
    go := l.go ^^^ word 8, gu := l.gu ^^^ word 9, ka := l.ka ^^^ word 10, ke := l.ke ^^^ word 11,
    ki := l.ki ^^^ word 12, ko := l.ko ^^^ word 13, ku := l.ku ^^^ word 14, ma := l.ma ^^^ word 15,
    me := l.me ^^^ word 16 }

/-- the eight bytes of a lane -/
def laneBytes (w : UInt64) : List UInt8 := (List.range 8).map fun k => (w >>> (8 * k).toUInt64).toUInt8

/-- the state before the first block -/
def Lanes.zero : Lanes :=
  { ba := 0, be := 0, bi := 0, bo := 0, bu := 0,
    ga := 0, ge := 0, gi := 0, go := 0, gu := 0,
    ka := 0, ke := 0, ki := 0, ko := 0, ku := 0,
    ma := 0, me := 0, mi := 0, mo := 0, mu := 0,
    sa := 0, se := 0, si := 0, so := 0, su := 0 }

/-- the 32-byte digest of a message -/
def digest (message : Bytes) : Bytes :=
  let padded := pad message
  let l := (List.range (padded.size / rate)).foldl (absorb padded) .zero
  ([l.ba, l.be, l.bi, l.bo].flatMap laneBytes).toArray

end GasMachine.Keccak

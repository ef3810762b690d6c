import Directory.Draws.Basic

/-!
# Seeded draws

The draws of a seed are the output of the ChaCha stream cipher with twelve rounds, no nonce and a
block counter from zero. Its key is expanded from the seed by a permuted congruential generator.

- `Draws.ofSeed`: the stream of a seed.
- `Cipher.block`: one block of the cipher's output, 16 words or 8 draws.
- `Cipher.keyOfSeed`: the key of a seed.
-/

namespace Directory

namespace Cipher

/-- The word rotated to the left. -/
def rotateLeft (x n : UInt32) : UInt32 :=
  (x <<< n) ||| (x >>> (32 - n))

/-- The word rotated to the right. -/
def rotateRight (x n : UInt32) : UInt32 :=
  (x >>> n) ||| (x <<< (32 - n))

/-! ## The key -/

/-- The step of the generator that expands a seed. -/
def advance (s : UInt64) : UInt64 :=
  s * 6364136223846793005 + 11634580027462260723

/-- The word that the generator gives in a state. -/
def keyWord (s : UInt64) : UInt32 :=
  rotateRight ((((s >>> 18) ^^^ s) >>> 27).toUInt32) ((s >>> 59).toUInt32)

/-- The next `n` words of the generator. -/
def keyWords (s : UInt64) : Nat → List UInt32
  | 0 => []
  | n + 1 => keyWord (advance s) :: keyWords (advance s) n

/-- The eight words of the key of a seed. -/
def keyOfSeed (seed : UInt64) : List UInt32 :=
  keyWords seed 8

/-! ## The cipher -/

/-- The state of the cipher: sixteen words. -/
abbrev State := Vector UInt32 16

/-- Mixes four words of the state. -/
def quarterRound (v : State) (a b c d : Fin 16) : State :=
  let v := v.set a (v[a] + v[b])
  let v := v.set d (rotateLeft (v[d] ^^^ v[a]) 16)
  let v := v.set c (v[c] + v[d])
  let v := v.set b (rotateLeft (v[b] ^^^ v[c]) 12)
  let v := v.set a (v[a] + v[b])
  let v := v.set d (rotateLeft (v[d] ^^^ v[a]) 8)
  let v := v.set c (v[c] + v[d])
  v.set b (rotateLeft (v[b] ^^^ v[c]) 7)

/-- Two rounds: the columns of the state, then its diagonals. -/
def doubleRound (v : State) : State :=
  let v := quarterRound v 0 4 8 12
  let v := quarterRound v 1 5 9 13
  let v := quarterRound v 2 6 10 14
  let v := quarterRound v 3 7 11 15
  let v := quarterRound v 0 5 10 15
  let v := quarterRound v 1 6 11 12
  let v := quarterRound v 2 7 8 13
  quarterRound v 3 4 9 14

/-- The first four words of every initial state. -/
def constants : List UInt32 := [0x61707865, 0x3320646e, 0x79622d32, 0x6b206574]

/-- The state from which a block is computed: constants, key, counter and an empty nonce. -/
def initial (key : List UInt32) (counter : Nat) : State :=
  let words := constants ++ key ++ [counter.toUInt32, (counter / UInt32.size).toUInt32, 0, 0]
  Vector.ofFn fun i => words[i.val]?.getD 0

/-- One block of output after twelve rounds. -/
def block (key : List UInt32) (counter : Nat) : State :=
  let start := initial key counter
  Vector.zipWith (· + ·) (Nat.repeat doubleRound 6 start) start

end Cipher

/-- The draw number `n` of a key: two successive words of output, the first one low. -/
def Draws.drawOfKey (key : List UInt32) (n : Nat) : UInt64 :=
  let words := Cipher.block key (n / 8)
  let low := words.toArray[2 * (n % 8)]?.getD 0
  let high := words.toArray[2 * (n % 8) + 1]?.getD 0
  low.toUInt64 ||| (high.toUInt64 <<< 32)

/-- The stream of a seed. -/
def Draws.ofSeed (seed : UInt64) : Draws :=
  let key := Cipher.keyOfSeed seed
  { stream := Draws.drawOfKey key }

end Directory

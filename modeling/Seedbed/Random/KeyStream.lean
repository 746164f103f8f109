/-!
# The key stream

The random words of a pass are the key stream of the ChaCha block function with eight rounds. The
key is eight words drawn from a 64 bit seed by a permuted congruential generator (`keyOfSeed`);
block `n` mixes the constants, the key and the counter `n` (`block`), and its sixteen words are
given out in order. The stream is therefore a function of the seed; a `KeyStream` keeps the block
that the next word comes from.
-/

namespace Seedbed.Random

/-- The key of a stream. -/
abbrev Key := Vector UInt32 8

/-- The state of the block function, and a block of output. -/
abbrev Block := Vector UInt32 16

/-- A word rotated to the left. -/
def rotateLeft (x : UInt32) (n : UInt32) : UInt32 :=
  (x <<< n) ||| (x >>> (32 - n))

/-- Mixes four words of a block. -/
def quarterRound (a b c d : Fin 16) (s : Block) : Block :=
  let s := s.set a (s[a] + s[b])
  let s := s.set d (rotateLeft (s[d] ^^^ s[a]) 16)
  let s := s.set c (s[c] + s[d])
  let s := s.set b (rotateLeft (s[b] ^^^ s[c]) 12)
  let s := s.set a (s[a] + s[b])
  let s := s.set d (rotateLeft (s[d] ^^^ s[a]) 8)
  let s := s.set c (s[c] + s[d])
  s.set b (rotateLeft (s[b] ^^^ s[c]) 7)

/-- A round over the columns and a round over the diagonals. -/
def doubleRound (s : Block) : Block :=
  let s := quarterRound 0 4 8 12 s
  let s := quarterRound 1 5 9 13 s
  let s := quarterRound 2 6 10 14 s
  let s := quarterRound 3 7 11 15 s
  let s := quarterRound 0 5 10 15 s
  let s := quarterRound 1 6 11 12 s
  let s := quarterRound 2 7 8 13 s
  quarterRound 3 4 9 14 s

/-- The state that block `n` starts from: constants, key and the counter in two words. -/
def initialState (key : Key) (n : UInt64) : Block :=
  #v[0x61707865, 0x3320646e, 0x79622d32, 0x6b206574,
    key[0], key[1], key[2], key[3], key[4], key[5], key[6], key[7],
    n.toUInt32, (n >>> 32).toUInt32, 0, 0]

/-- Block `n` of the stream: eight rounds over the initial state, which is added at the end. -/
def block (key : Key) (n : UInt64) : Block :=
  let start := initialState key n
  let mixed := doubleRound (doubleRound (doubleRound (doubleRound start)))
  Vector.zipWith (· + ·) mixed start

/-- One step of the generator that spreads a seed. -/
def nextSeed (state : UInt64) : UInt64 :=
  state * 6364136223846793005 + 11634580027462260723

/-- The word that a state of that generator gives. -/
def seedWord (state : UInt64) : UInt32 :=
  let x := (((state >>> 18) ^^^ state) >>> 27).toUInt32
  let rotation := (state >>> 59).toUInt32
  (x >>> rotation) ||| (x <<< ((32 - rotation) % 32))

/-- The states that follow a seed, as many as asked for. -/
def seedStates (state : UInt64) : Nat → List UInt64
  | 0 => []
  | n + 1 => nextSeed state :: seedStates (nextSeed state) n

/-- As many states are made as are asked for. -/
theorem length_seedStates (state : UInt64) (n : Nat) : (seedStates state n).length = n := by
  induction n generalizing state with
  | zero => rfl
  | succ n ih => simp [seedStates, ih]

/-- The key of a seed. -/
def keyOfSeed (seed : UInt64) : Key :=
  ⟨((seedStates seed 8).map seedWord).toArray, by simp [length_seedStates]⟩

/-- A stream at a position: `used` words of block `counter` are given out. -/
structure KeyStream where
  key : Key
  counter : UInt64
  words : Block
  used : Nat

namespace KeyStream

/-- The stream of a key from its start. -/
def ofKey (key : Key) : KeyStream :=
  { key, counter := 0, words := block key 0, used := 0 }

/-- The stream of a seed from its start. -/
def ofSeed (seed : UInt64) : KeyStream :=
  ofKey (keyOfSeed seed)

/-- The next word of a stream, and the stream behind it. -/
def next (s : KeyStream) : UInt32 × KeyStream :=
  if h : s.used < 16 then (s.words[s.used], { s with used := s.used + 1 })
  else
    let counter := s.counter + 1
    let words := block s.key counter
    (words[0], { s with counter, words, used := 1 })

end KeyStream

end Seedbed.Random

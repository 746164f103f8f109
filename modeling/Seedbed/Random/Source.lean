import Seedbed.Random.KeyStream
import Seedbed.Random.TenantSeed
import Seedbed.Number.Power

/-!
# Draws from a random source

A source gives words of a key stream one after another; a draw is a computation on its state. A
whole number in a range comes from one word: the word times the size of the range, divided by the
size of the word. If the remainder is large enough that the division may have lost a carry, a
second word decides whether to add one (`Draw.below`). The result is in range from every state, also
for the range of all words, which is drawn as the word itself.
-/

namespace Seedbed.Random

/-- A random source: its seed and its stream. -/
structure Source where
  seed : UInt64
  stream : KeyStream

namespace Source

/-- The source of a seed. -/
def ofSeed (seed : UInt64) : Source :=
  { seed, stream := KeyStream.ofSeed seed }

/-- The source of a tenant. -/
def ofTenant (tenant : String) : Source :=
  ofSeed (UInt64.ofNat (tenantSeed tenant))

end Source

/-- A computation that draws from a source. -/
abbrev Draw := StateM Source

namespace Draw

/-- The next word of the stream. -/
def word : Draw UInt32 := fun source =>
  let (w, stream) := source.stream.next
  (w, { source with stream })

/-- A number of 32 bits. -/
def bits32 : Draw Nat := do
  return (← word).toNat

/-- A number of 64 bits: the first word is the low half. -/
def bits64 : Draw Nat := do
  let low ← bits32
  let high ← bits32
  return low + 2 ^ 32 * high

/-- Which words a draw in a range is made from. -/
inductive Width
  | narrow
  | wide
  deriving DecidableEq

def Width.bits : Width → Nat
  | .narrow => 32
  | .wide => 64

/-- A number of all words of a width. -/
def ofWidth : Width → Draw Nat
  | .narrow => bits32
  | .wide => bits64

/-- A number below `size`, which is not 0 and at most the number of words. -/
def below (width : Width) (size : Nat) : Draw Nat := do
  let product := (← ofWidth width) * size
  let result := product / 2 ^ width.bits
  let remainder := product % 2 ^ width.bits
  if 2 ^ width.bits - size < remainder then
    let carry := (← ofWidth width) * size / 2 ^ width.bits
    return if 2 ^ width.bits ≤ remainder + carry then result + 1 else result
  else
    return result

/-- A number from `min` to `max`, both words of the width. -/
def between (width : Width) (min max : Nat) : Draw Nat := do
  if max - min + 1 = 2 ^ width.bits then ofWidth width
  else return min + (← below width (max - min + 1))

/-- A count from `min` to `max`, both 64 bit words. -/
def count (min max : Nat) : Draw Nat :=
  between .wide min max

/-- A signed number from `min` to `max`, both signed 64 bit words. The range of all words is drawn
as the word itself, read as a signed number. -/
def int (min max : Int) : Draw Int := do
  let size := (max - min + 1).toNat
  if size = 2 ^ 64 then
    let n ← bits64
    return if n < 2 ^ 63 then (n : Int) else (n : Int) - 2 ^ 64
  else return min + (← below .wide size)

/-- The words that an index below `length` is drawn from. -/
def indexWidth (length : Nat) : Width :=
  if length < 2 ^ 32 then .narrow else .wide

/-- An index below `length`; nothing, and no draw, when there is none. -/
def index? (length : Nat) : Draw (Option Nat) := do
  if length = 0 then return none
  else return some (← below (indexWidth length) length)

/-- Two to the power of minus 52, the step of the doubles from 1 to 2. -/
def unitStep : Float :=
  Float.ofBits 0x3CB0000000000000

/-- A real from `min` to `max`; `min` itself, and no draw, when the range is empty. -/
def real (min max : Float) : Draw Float := do
  if max ≤ min then return min
  else
    let n ← bits64
    return Float.ofNat (n / 2 ^ 12) * unitStep * (max - min) + min

/-- A fair coin. -/
def coin : Draw Bool := do
  return (← bits64) < 2 ^ 63

/-- The four bytes of a word, low byte first. -/
def bytesOfWord (w : Nat) : List Nat :=
  [w % 256, w / 256 % 256, w / 65536 % 256, w / 16777216 % 256]

/-- The results of drawing `n` times. -/
def times {α : Type} (n : Nat) (draw : Draw α) : Draw (List α) :=
  (List.replicate n ()).mapM fun _ => draw

/-- `n` bytes; the bytes of the last word that are not needed are lost. -/
def bytes (n : Nat) : Draw (List Nat) := do
  let ws ← times ((n + 3) / 4) bits32
  return (ws.flatMap bytesOfWord).take n

/-- One of the characters of a text. -/
def charOf (alphabet : Array Char) : Draw Char := do
  match ← index? alphabet.size with
  | some i => return alphabet.getD i ' '
  | none => return ' '

end Draw

end Seedbed.Random

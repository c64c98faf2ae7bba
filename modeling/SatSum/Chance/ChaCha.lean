import SatSum.Chance.Source

/-! # A seeded source of words

ChaCha with twelve rounds, a counter of blocks and no nonce. Its key is spread from a 64-bit seed by a
permuted congruential generator.
-/

namespace SatSum.Chance.ChaCha

/-! ## Blocks -/

abbrev State := Vector UInt32 16

/-- Rotates the bits of a word upwards; the amount is at most 32. -/
def rotateUp (x amount : UInt32) : UInt32 :=
  x <<< amount ||| x >>> (32 - amount)

/-- One step of a quarter round: adds a word to another and mixes the sum into a third. -/
def mix (target operand mixed : Fin 16) (amount : UInt32) (state : State) : State :=
  let sum := state[target] + state[operand]
  let state := state.set target sum
  state.set mixed (rotateUp (state[mixed] ^^^ sum) amount)

def quarterRound (a b c d : Fin 16) (state : State) : State :=
  state |> mix a b d 16 |> mix c d b 12 |> mix a b d 8 |> mix c d b 7

/-- A round over the columns and one over the diagonals. -/
def doubleRound (state : State) : State :=
  state
    |> quarterRound 0 4 8 12 |> quarterRound 1 5 9 13
    |> quarterRound 2 6 10 14 |> quarterRound 3 7 11 15
    |> quarterRound 0 5 10 15 |> quarterRound 1 6 11 12
    |> quarterRound 2 7 8 13 |> quarterRound 3 4 9 14

/-- The words of a block before the rounds. -/
def initial (key : Vector UInt32 8) (block : UInt64) : State := #v[
  -- The four constants are the letters of "expand 32-byte k".
  0x61707865, 0x3320646e, 0x79622d32, 0x6b206574,
  key[0], key[1], key[2], key[3], key[4], key[5], key[6], key[7],
  block.toUInt32, (block >>> 32).toUInt32, 0, 0]

/-- The words of a block: twelve rounds, added to the words before them. -/
def blockWords (key : Vector UInt32 8) (block : UInt64) : List UInt32 :=
  let start := initial key block
  (Vector.zipWith (· + ·) (Nat.repeat doubleRound 6 start) start).toList

/-! ## The stream -/

/-- The source: its key, the next block, and the words of the current block that are left. -/
structure Stream where
  key : Vector UInt32 8
  block : UInt64
  pending : List UInt32

/-- The next word, from a new block if none is left. -/
def Stream.next (stream : Stream) : UInt32 × Stream :=
  match stream.pending with
  | first :: rest => (first, { stream with pending := rest })
  | [] =>
    let words := blockWords stream.key stream.block
    (words.headD 0, { stream with block := stream.block + 1, pending := words.tail })

instance : WordSource Stream where
  next := Stream.next

/-! ## Seeds -/

/-- The next state of the generator that spreads a seed. -/
def spread (state : UInt64) : UInt64 :=
  state * 6364136223846793005 + 11634580027462260723

/-- The word that the generator hands out in a state. -/
def spreadWord (state : UInt64) : UInt32 :=
  let mixed : UInt32 := (((state >>> 18) ^^^ state) >>> 27).toUInt32
  let down : UInt32 := (state >>> 59).toUInt32
  rotateUp mixed (32 - down)

def Stream.ofSeed (seed : UInt64) : Stream where
  key := Vector.ofFn fun (index : Fin 8) => spreadWord (Nat.repeat spread (index + 1) seed)
  block := 0
  pending := []

end SatSum.Chance.ChaCha

import RouteCatalog.Sample.Random

/-!
# The Mersenne Twister

The generator MT19937: 624 words of 32 bits, seeded from the words of an integer's magnitude. A
number below a bound is drawn by rejection from as many bits as the bound has; a fraction of one has
53 bits.
-/

namespace RouteCatalog

/-- The state of the generator: its words and how many of them have been used. -/
structure Twister where
  words : Array UInt32
  used : Nat
  deriving Repr

namespace Twister

/-- The number of words. -/
def size : Nat := 624

/-- How far ahead the word lies that is mixed into a new one. -/
def shift : Nat := 397

/-- The words that follow from one number. -/
def initialWords (seed : UInt32) : Array UInt32 :=
  (List.range (size - 1)).foldl
    (fun words index =>
      let last := words.getD index 0
      words.push ((last ^^^ (last >>> 30)) * 1812433253 + UInt32.ofNat (index + 1)))
    #[seed]

/-- The position after the given one; the first word is overwritten with the last one on the way
around. -/
def advance (words : Array UInt32) (index : Nat) : Array UInt32 × Nat :=
  if index + 1 < size then (words, index + 1) else (words.set! 0 (words.getD (size - 1) 0), 1)

/-- Mix the words of a key into the state, one step for each of `size` positions or key words. -/
def mixKey (key : Array UInt32) (words : Array UInt32) : Array UInt32 × Nat :=
  (List.range (max size key.size)).foldl
    (fun (state : Array UInt32 × Nat) step =>
      let (words, index) := state
      let last := words.getD (index - 1) 0
      let position := step % key.size
      let word := (words.getD index 0 ^^^ ((last ^^^ (last >>> 30)) * 1664525)) +
        key.getD position 0 + UInt32.ofNat position
      advance (words.set! index word) index)
    (words, 1)

/-- Mix the state with itself once around. -/
def mixRound (state : Array UInt32 × Nat) : Array UInt32 :=
  let mixed := (List.range (size - 1)).foldl
    (fun (state : Array UInt32 × Nat) _ =>
      let (words, index) := state
      let last := words.getD (index - 1) 0
      let word := (words.getD index 0 ^^^ ((last ^^^ (last >>> 30)) * 1566083941)) -
        UInt32.ofNat index
      advance (words.set! index word) index)
    state
  mixed.1.set! 0 0x80000000

/-- The 32-bit words of a number, the least significant first; zero has one word. -/
def wordsOf (number : Nat) : Array UInt32 :=
  let count := max 1 ((number.log2 + 32) / 32)
  (Array.range count).map fun index => UInt32.ofNat (number >>> (32 * index))

/-- The generator for a seed. -/
def ofSeed (seed : Int) : Twister :=
  { words := mixRound (mixKey (wordsOf seed.natAbs) (initialWords 19650218)), used := size }

/-- A new word from two neighbours and the word that lies ahead. -/
def twist (current next ahead : UInt32) : UInt32 :=
  let joined := (current &&& 0x80000000) ||| (next &&& 0x7fffffff)
  ahead ^^^ (joined >>> 1) ^^^ (if joined &&& 1 = 0 then 0 else 0x9908b0df)

/-- Replace every word by a new one, in place and in order. -/
def refill (words : Array UInt32) : Array UInt32 :=
  (List.range size).foldl
    (fun words index =>
      let word (position : Nat) : UInt32 := words.getD (position % size) 0
      words.set! index (twist (word index) (word (index + 1)) (word (index + shift))))
    words

/-- Spread the bits of a word. -/
def temper (word : UInt32) : UInt32 :=
  let word := word ^^^ (word >>> 11)
  let word := word ^^^ ((word <<< 7) &&& 0x9d2c5680)
  let word := word ^^^ ((word <<< 15) &&& 0xefc60000)
  word ^^^ (word >>> 18)

/-- The next word of the sequence. -/
def next (twister : Twister) : UInt32 × Twister :=
  let twister :=
    if twister.used < size then twister else { words := refill twister.words, used := 0 }
  (temper (twister.words.getD twister.used 0), { twister with used := twister.used + 1 })

/-- Draw numbers of as many bits as the bound has until one is below it; after `tries` of them, the
remainder of the last. -/
def drawBelow (bits bound : Nat) : (tries : Nat) → Twister → Nat × Twister
  | 0, twister => (twister.used % bound, twister)
  | tries + 1, twister =>
    let (word, twister) := twister.next
    let drawn := word.toNat >>> (32 - bits)
    if drawn < bound then (drawn, twister) else drawBelow bits bound tries twister

/-- A drawn number is below its bound. -/
theorem drawBelow_lt (bits bound tries : Nat) (twister : Twister) (positive : 0 < bound) :
    (drawBelow bits bound tries twister).1 < bound := by
  induction tries generalizing twister with
  | zero => exact Nat.mod_lt _ positive
  | succ tries inductionHypothesis =>
    simp only [drawBelow]
    split
    · assumption
    · exact inductionHypothesis _

/-- The generator as a source of random numbers. -/
def source : RandomSource where
  State := Twister
  below bound twister := drawBelow (bound.log2 + 1) bound 10000 twister
  fraction twister :=
    let (high, twister) := twister.next
    let (low, twister) := twister.next
    let numerator := (high.toNat >>> 5) * 0x4000000 + (low.toNat >>> 6)
    ({ numerator, denominator := 0x20000000000000 }, twister)
  below_lt bound twister positive := drawBelow_lt _ bound _ twister positive

end Twister

end RouteCatalog

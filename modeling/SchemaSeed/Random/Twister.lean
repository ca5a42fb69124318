import SchemaSeed.Binary64
import SchemaSeed.Random.Source

/-! The Mersenne twister: 624 words of state, renewed all at once, and a tempered
word per draw.  Greater numbers are composed of several words, and a number below
a bound is drawn by refusing those that are not. -/

namespace SchemaSeed

structure Twister where
  words : Array UInt32
  /-- The position of the next word; past the end, the words are renewed first. -/
  index : Nat

namespace Twister

def size : Nat := 624

def middle : Nat := 397

/-! Seeding. -/

def seededOnto (words : Array UInt32) (previous : UInt32) (index : Nat) : Nat → Array UInt32
  | 0 => words
  | remaining + 1 =>
      let word := (previous ^^^ (previous >>> 30)) * 1812433253 + UInt32.ofNat index
      seededOnto (words.push word) word (index + 1) remaining

def seeded (seed : UInt32) : Array UInt32 :=
  seededOnto #[seed] seed 1 (size - 1)

/-- A position in the state, and its first word carried around past the end. -/
def wrapped (words : Array UInt32) (index : Nat) : Array UInt32 × Nat :=
  if size ≤ index then (words.set! 0 (words.getD (size - 1) 0), 1) else (words, index)

def mixKey (key : Array UInt32) (words : Array UInt32) (index keyIndex : Nat) :
    Nat → Array UInt32 × Nat
  | 0 => (words, index)
  | remaining + 1 =>
      let previous := words.getD (index - 1) 0
      let word := (words.getD index 0 ^^^ ((previous ^^^ (previous >>> 30)) * 1664525)) +
        key.getD keyIndex 0 + UInt32.ofNat keyIndex
      let (words, index) := wrapped (words.set! index word) (index + 1)
      mixKey key words index (if key.size ≤ keyIndex + 1 then 0 else keyIndex + 1) remaining

def mixIndex (words : Array UInt32) (index : Nat) : Nat → Array UInt32
  | 0 => words
  | remaining + 1 =>
      let previous := words.getD (index - 1) 0
      let word := (words.getD index 0 ^^^ ((previous ^^^ (previous >>> 30)) * 1566083941)) -
        UInt32.ofNat index
      let (words, index) := wrapped (words.set! index word) (index + 1)
      mixIndex words index remaining

def ofKey (key : Array UInt32) : Twister :=
  let (words, index) := mixKey key (seeded 19650218) 1 0 (max size key.size)
  let words := mixIndex words index (size - 1)
  ⟨words.set! 0 0x80000000, size⟩

/-- The words of a number, least significant first; zero has one. -/
def keyWords (number : Nat) : List UInt32 :=
  if number < 0x100000000 then [UInt32.ofNat number]
  else UInt32.ofNat (number % 0x100000000) :: keyWords (number / 0x100000000)
termination_by number
decreasing_by omega

/-- The generator for a seed; its sign does not matter. -/
def ofSeed (seed : Int) : Twister :=
  ofKey (keyWords seed.natAbs).toArray

/-! Drawing. -/

def renewedWord (words : Array UInt32) (index : Nat) : UInt32 :=
  let joined := (words.getD index 0 &&& 0x80000000) |||
    (words.getD ((index + 1) % size) 0 &&& 0x7FFFFFFF)
  words.getD ((index + middle) % size) 0 ^^^ (joined >>> 1) ^^^
    (if joined &&& 1 = 0 then 0 else 0x9908B0DF)

def renewFrom (words : Array UInt32) (index : Nat) : Nat → Array UInt32
  | 0 => words
  | remaining + 1 => renewFrom (words.set! index (renewedWord words index)) (index + 1) remaining

def tempered (word : UInt32) : UInt32 :=
  let word := word ^^^ (word >>> 11)
  let word := word ^^^ ((word <<< 7) &&& 0x9D2C5680)
  let word := word ^^^ ((word <<< 15) &&& 0xEFC60000)
  word ^^^ (word >>> 18)

def word (twister : Twister) : UInt32 × Twister :=
  let ⟨words, index⟩ := twister
  let (words, index) := if size ≤ index then (renewFrom words 0 size, 0) else (words, index)
  (tempered (words.getD index 0), ⟨words, index + 1⟩)

/-- A number of `count` random bits above those of `total`, which takes up `shift`
bits. -/
def bitsOnto (total shift : Nat) (twister : Twister) (count : Nat) : Nat × Twister :=
  let (drawn, twister) := twister.word
  if count ≤ 32 then (total + (drawn.toNat >>> (32 - count)) <<< shift, twister)
  else bitsOnto (total + drawn.toNat <<< shift) (shift + 32) twister (count - 32)
termination_by count
decreasing_by omega

def bits (twister : Twister) (count : Nat) : Nat × Twister :=
  bitsOnto 0 0 twister count

/-- Draws until a number below `bound` comes.  Each try succeeds with more than even
chances; should all `tries` fail, the remainder of the last number is taken. -/
def belowWithin (bound count : Nat) (twister : Twister) : (tries : Nat) → Nat × Twister
  | 0 =>
      let (drawn, twister) := twister.bits count
      (drawn % bound, twister)
  | tries + 1 =>
      let (drawn, twister) := twister.bits count
      if drawn < bound then (drawn, twister) else belowWithin bound count twister tries

def tries : Nat := 100000

def below (bound : Nat) (twister : Twister) : Nat × Twister :=
  belowWithin bound (Nat.log2 bound + 1) twister tries

theorem belowWithin_lt {bound : Nat} (positive : 0 < bound) (count : Nat) (twister : Twister)
    (tries : Nat) : (belowWithin bound count twister tries).1 < bound := by
  induction tries generalizing twister with
  | zero => exact Nat.mod_lt _ positive
  | succ tries induction =>
      simp only [belowWithin]
      split
      · assumption
      · exact induction _

theorem below_lt {bound : Nat} (positive : 0 < bound) (twister : Twister) :
    (twister.below bound).1 < bound :=
  belowWithin_lt positive _ twister tries

/-- A number of 53 random bits after the point. -/
def fraction (twister : Twister) : Float × Twister :=
  let (high, twister) := twister.word
  let (low, twister) := twister.word
  (Binary64.nearest ((high >>> 5).toNat * Nat.pow 2 26 + (low >>> 6).toNat) (Nat.pow 2 53), twister)

def source : RandomSource Twister where
  between low high twister :=
    let (offset, twister) := twister.below (high - low + 1).toNat
    (low + offset, twister)
  fraction := fraction
  position := below
  nothing twister := (.nothingToChoose, twister)

end Twister

end SchemaSeed

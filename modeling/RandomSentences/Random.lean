/-
# Random -- streams of 32-bit words, and the choices made from them

A random source is a *stream*: an endless sequence of 32-bit words, read in order.  The state of a
reader is its position, the number of words it has drawn.

To choose one of `count` alternatives a word `w` is scaled to the product `w * count`.  Its high half
`w * count / 2³²` is an index below `count` (`index_lt`).  Its low half decides whether the word
counts: it is accepted when the low half is below `count` shifted left until its top bit is set.  A
word that is refused is skipped and the next one is tried, so that every index is reached from
equally many accepted words.  Even where there is a single alternative a word is drawn, and half of
the words are refused.  `draws` bounds the number of words tried for one choice; `choose` answers
`none` when all of them are refused.

This is how a choice is made among fewer than `2³²` alternatives.  Among `2³²` or more, the words are
drawn two at a time, as one number of 64 bits, and `choose` does not describe that.  A list of so many
productions is outside of what is modelled, also where a theorem is stated for rules of any size.

The stream of a 64-bit *seed* is the keystream of ChaCha after twelve rounds.  The state of ChaCha is
sixteen 32-bit words: four constants, eight words of key, a 64-bit block counter with its low word
first, and two words of nonce, here zero.  A *quarter round* mixes four of them; a *double round*
applies it to the four columns and then to the four diagonals of the state read as a four by four
square.  The block for a counter is the state after the rounds, added word by word to the state
before them, and the keystream is the blocks for the counters 0, 1, 2, … .

A seed is stretched to the eight words of the key by a permuted congruential generator: its 64-bit
state starts at the seed and is multiplied and incremented before each word, which is the state
folded to 32 bits and rotated by the state's top five bits.
-/

namespace RandomSentences

set_option autoImplicit false

/-! ## Choices -/

abbrev WordStream := Nat → UInt32

/-- The words of a list, then zero for ever. -/
def WordStream.ofList (words : List UInt32) : WordStream := fun position =>
  words[position]?.getD 0

namespace Choice

/-- The number of zeros before the first one in a 32-bit number. -/
def leadingZeros (count : Nat) : Nat := 31 - count.log2

def accepts (count : Nat) (word : UInt32) : Bool :=
  word.toNat * count % UInt32.size < count <<< leadingZeros count

/-- The alternative that a word selects. -/
def index (count : Nat) (word : UInt32) : Nat :=
  word.toNat * count / UInt32.size

theorem index_lt {count : Nat} (word : UInt32) (some_ : 0 < count) : index count word < count := by
  have below : word.toNat < UInt32.size := word.toNat_lt_size
  exact Nat.div_lt_of_lt_mul (Nat.mul_lt_mul_of_lt_of_le below (Nat.le_refl _) some_)

/-- The alternative selected by the first word that counts, and the position after that word. -/
def choose (stream : WordStream) (count : Nat) : Nat → Nat → Option (Nat × Nat)
  | 0, _ => none
  | draws + 1, position =>
      if accepts count (stream position) then
        some (index count (stream position), position + 1)
      else choose stream count draws (position + 1)

end Choice

/-! ## The keystream -/

namespace ChaCha

/-- Turns a word to the left by an amount from 1 to 31. -/
def rotateLeft (word amount : UInt32) : UInt32 :=
  (word <<< amount) ||| (word >>> (32 - amount))

structure Quad where
  a : UInt32
  b : UInt32
  c : UInt32
  d : UInt32

def Quad.mix (q : Quad) : Quad :=
  let a := q.a + q.b
  let d := rotateLeft (q.d ^^^ a) 16
  let c := q.c + d
  let b := rotateLeft (q.b ^^^ c) 12
  let a := a + b
  let d := rotateLeft (d ^^^ a) 8
  let c := c + d
  let b := rotateLeft (b ^^^ c) 7
  ⟨a, b, c, d⟩

/-- The state as the four rows of a square. -/
structure Square where
  row0 : Quad
  row1 : Quad
  row2 : Quad
  row3 : Quad

namespace Square

def mixColumns (s : Square) : Square :=
  let p := Quad.mix ⟨s.row0.a, s.row1.a, s.row2.a, s.row3.a⟩
  let q := Quad.mix ⟨s.row0.b, s.row1.b, s.row2.b, s.row3.b⟩
  let r := Quad.mix ⟨s.row0.c, s.row1.c, s.row2.c, s.row3.c⟩
  let t := Quad.mix ⟨s.row0.d, s.row1.d, s.row2.d, s.row3.d⟩
  ⟨⟨p.a, q.a, r.a, t.a⟩, ⟨p.b, q.b, r.b, t.b⟩, ⟨p.c, q.c, r.c, t.c⟩, ⟨p.d, q.d, r.d, t.d⟩⟩

/-- Turns the lower rows to the left, so that each diagonal becomes a column. -/
def skew (s : Square) : Square :=
  ⟨s.row0, ⟨s.row1.b, s.row1.c, s.row1.d, s.row1.a⟩, ⟨s.row2.c, s.row2.d, s.row2.a, s.row2.b⟩,
    ⟨s.row3.d, s.row3.a, s.row3.b, s.row3.c⟩⟩

/-- Turns the lower rows back to the right. -/
def unskew (s : Square) : Square :=
  ⟨s.row0, ⟨s.row1.d, s.row1.a, s.row1.b, s.row1.c⟩, ⟨s.row2.c, s.row2.d, s.row2.a, s.row2.b⟩,
    ⟨s.row3.b, s.row3.c, s.row3.d, s.row3.a⟩⟩

def doubleRound (s : Square) : Square :=
  s.mixColumns.skew.mixColumns.unskew

def rounds : Nat → Square → Square
  | 0, s => s
  | n + 1, s => rounds n s.doubleRound

def toList (s : Square) : List UInt32 :=
  [s.row0, s.row1, s.row2, s.row3].flatMap fun q => [q.a, q.b, q.c, q.d]

end Square

/-- The eight words of a key, as two rows of the state. -/
structure Key where
  low : Quad
  high : Quad

/-- The state that a block starts from. -/
def start (key : Key) (counter : Nat) : Square :=
  ⟨⟨0x61707865, 0x3320646E, 0x79622D32, 0x6B206574⟩, key.low, key.high,
    ⟨UInt32.ofNat counter, UInt32.ofNat (counter / UInt32.size), 0, 0⟩⟩

def block (doubleRounds : Nat) (key : Key) (counter : Nat) : List UInt32 :=
  List.zipWith (· + ·) (start key counter).toList
    ((start key counter).rounds doubleRounds).toList

def keystream (doubleRounds : Nat) (key : Key) : WordStream := fun position =>
  (block doubleRounds key (position / 16))[position % 16]?.getD 0

end ChaCha

/-! ## Seeds -/

namespace Seed

def advance (state : UInt64) : UInt64 :=
  state * 6364136223846793005 + 11634580027462260723

/-- Turns a word to the right by an amount below 32. -/
def rotateRight (word amount : UInt32) : UInt32 :=
  (word >>> amount) ||| (word <<< ((32 - amount) % 32))

def output (state : UInt64) : UInt32 :=
  rotateRight (((state >>> 18) ^^^ state) >>> 27).toUInt32 (state >>> 59).toUInt32

/-- Four words of key, and the state after them. -/
def quad (state : UInt64) : ChaCha.Quad × UInt64 :=
  let first := advance state
  let second := advance first
  let third := advance second
  let fourth := advance third
  (⟨output first, output second, output third, output fourth⟩, fourth)

def key (seed : UInt64) : ChaCha.Key :=
  let (low, state) := quad seed
  ⟨low, (quad state).1⟩

def stream (seed : UInt64) : WordStream :=
  ChaCha.keystream 6 (key seed)

end Seed

end RandomSentences

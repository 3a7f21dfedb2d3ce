import Messenger.Bytes

/-!
Repeatable randomness: the ChaCha keystream with eight rounds, under a key that is
spread from one 64-bit seed. The stream is a sequence of 32-bit words, so a keystream is
a key and the position of the next word.
-/

namespace Messenger

structure Keystream where
  key : List UInt32
  position : Nat
  deriving DecidableEq, Repr

namespace Keystream

def rotateLeft (word amount : UInt32) : UInt32 :=
  (word <<< amount) ||| (word >>> (32 - amount))

def spread (state : UInt64) : UInt64 :=
  state * 6364136223846793005 + 11634580027462260723

/-- The bits of a state, permuted: folded, cut to a word, and rotated right by the top
five bits. -/
def keyWord (state : UInt64) : UInt32 :=
  let folded := (((state >>> 18) ^^^ state) >>> 27).toUInt32
  rotateLeft folded ((32 : UInt32) - (state >>> 59).toUInt32)

def keyWords : (count : Nat) → UInt64 → List UInt32
  | 0, _ => []
  | count + 1, state => keyWord (spread state) :: keyWords count (spread state)

def ofSeed (seed : UInt64) : Keystream where
  key := keyWords 8 seed
  position := 0

def quarterRound (block : Vector UInt32 16) (a b c d : Fin 16) : Vector UInt32 16 :=
  let block := block.set a (block[a] + block[b])
  let block := block.set d (rotateLeft (block[d] ^^^ block[a]) 16)
  let block := block.set c (block[c] + block[d])
  let block := block.set b (rotateLeft (block[b] ^^^ block[c]) 12)
  let block := block.set a (block[a] + block[b])
  let block := block.set d (rotateLeft (block[d] ^^^ block[a]) 8)
  let block := block.set c (block[c] + block[d])
  block.set b (rotateLeft (block[b] ^^^ block[c]) 7)

def doubleRound (block : Vector UInt32 16) : Vector UInt32 16 :=
  let block := quarterRound block 0 4 8 12
  let block := quarterRound block 1 5 9 13
  let block := quarterRound block 2 6 10 14
  let block := quarterRound block 3 7 11 15
  let block := quarterRound block 0 5 10 15
  let block := quarterRound block 1 6 11 12
  let block := quarterRound block 2 7 8 13
  quarterRound block 3 4 9 14

/-- Four constants, the key, the number of the block in two words, and two zeros. -/
def blockInput (key : List UInt32) (number : Nat) : Vector UInt32 16 :=
  let words := [0x61707865, 0x3320646e, 0x79622d32, 0x6b206574] ++ key ++
    [UInt32.ofNat number, UInt32.ofNat (number / UInt32.size), 0, 0]
  Vector.ofFn fun place => words.getD place 0

def block (key : List UInt32) (number : Nat) : List UInt32 :=
  let input := blockInput key number
  let output := doubleRound (doubleRound (doubleRound (doubleRound input)))
  (output.zipWith (· + ·) input).toList

def wordBytes (word : UInt32) : Bytes :=
  [word.toUInt8, (word >>> 8).toUInt8, (word >>> 16).toUInt8, (word >>> 24).toUInt8]

def words (stream : Keystream) (count : Nat) : List UInt32 :=
  let first := stream.position / 16
  let last := (stream.position + count) / 16
  let blocks := (List.range' first (last + 1 - first)).flatMap (block stream.key)
  (blocks.drop (stream.position % 16)).take count

/-- The next bytes. What is left of the last word is not used again. -/
def take (stream : Keystream) (count : Nat) : Bytes × Keystream :=
  let used := (count + 3) / 4
  (((stream.words used).flatMap wordBytes).take count,
    { stream with position := stream.position + used })

end Keystream

end Messenger

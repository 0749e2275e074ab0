import ApiSite.Data.Display

/-!
The SHA-256 digest of a text of bytes, in hexadecimal: the message is padded to blocks of sixty-four
bytes, and each block is worked into a state of eight words.
-/

set_option autoImplicit false

namespace ApiSite.Sha256

/-- The words of the state before the first block. -/
def initial : List UInt32 :=
  [0x6a09e667, 0xbb67ae85, 0x3c6ef372, 0xa54ff53a, 0x510e527f, 0x9b05688c, 0x1f83d9ab, 0x5be0cd19]

/-- The constant of each round. -/
def roundConstants : List UInt32 :=
  [0x428a2f98, 0x71374491, 0xb5c0fbcf, 0xe9b5dba5, 0x3956c25b, 0x59f111f1, 0x923f82a4, 0xab1c5ed5,
    0xd807aa98, 0x12835b01, 0x243185be, 0x550c7dc3, 0x72be5d74, 0x80deb1fe, 0x9bdc06a7,
    0xc19bf174, 0xe49b69c1, 0xefbe4786, 0x0fc19dc6, 0x240ca1cc, 0x2de92c6f, 0x4a7484aa,
    0x5cb0a9dc, 0x76f988da, 0x983e5152, 0xa831c66d, 0xb00327c8, 0xbf597fc7, 0xc6e00bf3,
    0xd5a79147, 0x06ca6351, 0x14292967, 0x27b70a85, 0x2e1b2138, 0x4d2c6dfc, 0x53380d13,
    0x650a7354, 0x766a0abb, 0x81c2c92e, 0x92722c85, 0xa2bfe8a1, 0xa81a664b, 0xc24b8b70,
    0xc76c51a3, 0xd192e819, 0xd6990624, 0xf40e3585, 0x106aa070, 0x19a4c116, 0x1e376c08,
    0x2748774c, 0x34b0bcb5, 0x391c0cb3, 0x4ed8aa4a, 0x5b9cca4f, 0x682e6ff3, 0x748f82ee,
    0x78a5636f, 0x84c87814, 0x8cc70208, 0x90befffa, 0xa4506ceb, 0xbef9a3f7, 0xc67178f2]

/-- A word with its bits moved to the right, those that leave it coming in on the left. -/
def rotate (n : UInt32) (w : UInt32) : UInt32 := (w >>> n) ||| (w <<< (32 - n))

/-- A number as that many bytes, the highest first. -/
def bytesOf : Nat → Nat → List UInt8
  | 0, _ => []
  | k + 1, n => UInt8.ofNat (n >>> (8 * k)) :: bytesOf k n

/-- The message with a one bit, zeros, and its length in bits, in whole blocks. -/
def pad (message : List UInt8) : List UInt8 :=
  let n := message.length
  message ++ [0x80] ++ List.replicate ((119 - n % 64) % 64) 0 ++ bytesOf 8 (8 * n)

/-- Four bytes as a word each. -/
def wordsOf : List UInt8 → List UInt32
  | a :: b :: c :: d :: rest =>
    (a.toUInt32 <<< 24 ||| b.toUInt32 <<< 16 ||| c.toUInt32 <<< 8 ||| d.toUInt32) :: wordsOf rest
  | _ => []

/-- The word of the schedule that follows those before it, given in reverse. -/
def nextWord (before : List UInt32) : UInt32 :=
  let at_ (k : Nat) : UInt32 := (before[k - 1]?).getD 0
  let small (a b c w : UInt32) := rotate a w ^^^ rotate b w ^^^ (w >>> c)
  at_ 16 + small 7 18 3 (at_ 15) + at_ 7 + small 17 19 10 (at_ 2)

/-- The schedule of a block: its sixteen words and as many more as asked for, in reverse. -/
def extend : Nat → List UInt32 → List UInt32
  | 0, before => before
  | k + 1, before => extend k (nextWord before :: before)

/-- One round: the state changes with a constant and a word of the schedule. -/
def round (state : List UInt32) (k w : UInt32) : List UInt32 :=
  match state with
  | [a, b, c, d, e, f, g, h] =>
    let t1 := h + (rotate 6 e ^^^ rotate 11 e ^^^ rotate 25 e) + ((e &&& f) ^^^ (~~~e &&& g)) +
      k + w
    let t2 := (rotate 2 a ^^^ rotate 13 a ^^^ rotate 22 a) + ((a &&& b) ^^^ (a &&& c) ^^^ (b &&& c))
    [t1 + t2, a, b, c, d + t1, e, f, g]
  | state => state

/-- Works a block of words into the state. -/
def compress (state : List UInt32) (block : List UInt32) : List UInt32 :=
  let schedule := (extend 48 block.reverse).reverse
  let mixed := (roundConstants.zip schedule).foldl (fun s (k, w) => round s k w) state
  List.zipWith (· + ·) state mixed

/-- Works blocks of sixteen words into the state; `fuel` bounds their number. -/
def absorb : Nat → List UInt32 → List UInt32 → List UInt32
  | 0, state, _ => state
  | fuel + 1, state, words =>
    if words.isEmpty then state
    else absorb fuel (compress state (words.take 16)) (words.drop 16)

/-- The digest of a message. -/
def digest (message : List UInt8) : List UInt32 :=
  let words := wordsOf (pad message)
  absorb words.length initial words

/-- The digest in hexadecimal of a text of ASCII characters. -/
def ofAscii (t : Text) : Text :=
  (digest (t.map fun c => UInt8.ofNat c.toNat)).flatMap fun w => Text.hex 8 w.toNat

end ApiSite.Sha256

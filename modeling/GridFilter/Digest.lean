/-!
# BLAKE3

The keyless hash of a byte string.  The input is cut into chunks of 1024 bytes and each chunk into
blocks of 64; a chunk is the chain of its compressed blocks, and chunks are joined in a binary tree
whose left half is the largest power of two.  Only the first eight bytes of the answer are needed
here, as sixteen hexadecimal digits.
-/

namespace GridFilter.Digest

/-- Eight words that chain one compression to the next. -/
abbrev Chain := List UInt32

/-- The initial chain. -/
def initial : Chain :=
  [0x6A09E667, 0xBB67AE85, 0x3C6EF372, 0xA54FF53A, 0x510E527F, 0x9B05688C, 0x1F83D9AB, 0x5BE0CD19]

/-! ## Flags -/

/-- The first block of a chunk. -/
def chunkStart : UInt32 := 1

/-- The last block of a chunk. -/
def chunkEnd : UInt32 := 2

/-- A node above two others. -/
def parent : UInt32 := 4

/-- The compression whose output is the hash. -/
def root : UInt32 := 8

/-! ## Compression -/

/-- The word turned right by so many bits, fewer than thirty-two. -/
def turn (word amount : UInt32) : UInt32 :=
  (word >>> amount) ||| (word <<< (32 - amount))

/-- Mixes two message words into four words of the state. -/
def quarter (state : Array UInt32) (a b c d : Nat) (x y : UInt32) : Array UInt32 :=
  let va := state.getD a 0 + state.getD b 0 + x
  let vd := turn (state.getD d 0 ^^^ va) 16
  let vc := state.getD c 0 + vd
  let vb := turn (state.getD b 0 ^^^ vc) 12
  let va := va + vb + y
  let vd := turn (vd ^^^ va) 8
  let vc := vc + vd
  let vb := turn (vb ^^^ vc) 7
  (((state.setIfInBounds a va).setIfInBounds b vb).setIfInBounds c vc).setIfInBounds d vd

/-- One round: the columns, then the diagonals. -/
def round (state message : Array UInt32) : Array UInt32 :=
  let m (i : Nat) : UInt32 := message.getD i 0
  let state := quarter state 0 4 8 12 (m 0) (m 1)
  let state := quarter state 1 5 9 13 (m 2) (m 3)
  let state := quarter state 2 6 10 14 (m 4) (m 5)
  let state := quarter state 3 7 11 15 (m 6) (m 7)
  let state := quarter state 0 5 10 15 (m 8) (m 9)
  let state := quarter state 1 6 11 12 (m 10) (m 11)
  let state := quarter state 2 7 8 13 (m 12) (m 13)
  quarter state 3 4 9 14 (m 14) (m 15)

/-- The order in which a round hands the message words to the next. -/
def schedule : List Nat :=
  [2, 6, 3, 10, 7, 0, 4, 13, 1, 11, 12, 5, 9, 14, 15, 8]

/-- So many rounds, the message words in a new order after each. -/
def rounds : Nat → Array UInt32 → Array UInt32 → Array UInt32
  | 0, state, _ => state
  | count + 1, state, message =>
    rounds count (round state message) (schedule.map fun i => message.getD i 0).toArray

/-- One compression: the chain, a block of sixteen words, the chunk's number, the bytes the block
holds and the flags. -/
def compress (chain : Chain) (block : List UInt32) (counter : Nat) (length flags : UInt32) :
    Chain :=
  let state := chain ++ initial.take 4 ++
    [UInt32.ofNat counter, UInt32.ofNat (counter / Nat.pow 2 32), length, flags]
  let state := (rounds 7 state.toArray block.toArray).toList
  List.zipWith (· ^^^ ·) (state.take 8) (state.drop 8)

/-! ## Blocks and chunks -/

/-- Four bytes as a word, least significant first; missing bytes are zero. -/
def word (bytes : List UInt8) : UInt32 :=
  bytes.foldr (fun byte rest => byte.toUInt32 ||| (rest <<< 8)) 0

/-- The first `count` pieces of `size` elements each; pieces past the end are empty. -/
def pieces {α : Type} (size : Nat) : Nat → List α → List (List α)
  | 0, _ => []
  | count + 1, s => s.take size :: pieces size count (s.drop size)

/-- How many pieces of `size` cover a list of `length`; an empty list has one. -/
def pieceCount (size length : Nat) : Nat :=
  max 1 ((length + size - 1) / size)

/-- The sixteen words of a block, zero past its bytes. -/
def blockWords (block : List UInt8) : List UInt32 :=
  (pieces 4 16 block).map word

/-- Chains the blocks of a chunk; `flags` marks the first block and `final` joins the last. -/
def chainBlocks (counter : Nat) (final : UInt32) : Chain → UInt32 → List (List UInt8) → Chain
  | chain, _, [] => chain
  | chain, flags, [block] =>
    compress chain (blockWords block) counter (UInt32.ofNat block.length)
      (flags ||| chunkEnd ||| final)
  | chain, flags, block :: rest =>
    chainBlocks counter final
      (compress chain (blockWords block) counter (UInt32.ofNat block.length) flags) 0 rest

/-- The chain of a chunk of at most 1024 bytes. -/
def chunkChain (counter : Nat) (final : UInt32) (chunk : List UInt8) : Chain :=
  chainBlocks counter final initial chunkStart
    (pieces 64 (pieceCount 64 chunk.length) chunk)

/-! ## The tree -/

/-- Joins neighbouring nodes in pairs; a last one without a partner moves up as it is. -/
def joinPairs (final : UInt32) : List Chain → List Chain
  | left :: right :: rest =>
    compress initial (left ++ right) 0 64 (parent ||| final) :: joinPairs final rest
  | rest => rest

/-- Joins the nodes of a level until one is left; the join of the last two is the root.  The
number of levels is at most `bound`. -/
def joinAll : Nat → List Chain → Chain
  | 0, level => level.headD initial
  | bound + 1, level =>
    match level with
    | [only] => only
    | [left, right] => compress initial (left ++ right) 0 64 (parent ||| root)
    | _ => joinAll bound (joinPairs 0 level)

/-- The hash of a byte string, as eight words. -/
def hash (bytes : List UInt8) : Chain :=
  match pieces 1024 (pieceCount 1024 bytes.length) bytes with
  | [only] => chunkChain 0 root only
  | chunks => joinAll chunks.length (chunks.zipIdx.map fun entry => chunkChain entry.2 0 entry.1)

/-! ## Hexadecimal text -/

/-- Two hexadecimal digits of a byte, in lower case. -/
def byteHex (byte : UInt8) : List Char :=
  [Nat.digitChar (byte.toNat / 16), Nat.digitChar (byte.toNat % 16)]

/-- The four bytes of a word, least significant first. -/
def wordBytes (w : UInt32) : List UInt8 :=
  [w.toUInt8, (w >>> 8).toUInt8, (w >>> 16).toUInt8, (w >>> 24).toUInt8]

/-- The first sixteen hexadecimal digits of the hash. -/
def hex16 (bytes : List UInt8) : String :=
  String.ofList (((hash bytes).take 2).flatMap fun w => (wordBytes w).flatMap byteHex)

end GridFilter.Digest

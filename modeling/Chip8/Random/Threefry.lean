namespace Chip8.Random

/-! The Threefry block function on two 32-bit words: twenty rounds of add,
rotate and exclusive or, with a word of the key schedule added before the first
round and after every fourth. A key is a pair of words, and so are a counter
and a block of output. -/

structure Words where
  first : UInt32
  second : UInt32
deriving DecidableEq, Repr

namespace Words

def add (left right : Words) : Words :=
  ⟨left.first + right.first, left.second + right.second⟩

end Words

namespace Threefry

def rotateLeft (word amount : UInt32) : UInt32 :=
  (word <<< amount) ||| (word >>> (32 - amount))

/-- One round. -/
def mix (block : Words) (amount : UInt32) : Words :=
  let sum := block.first + block.second
  ⟨sum, rotateLeft block.second amount ^^^ sum⟩

/-- The key's two words and a third that ties them together. -/
def scheduleWord (key : Words) (index : Nat) : UInt32 :=
  match index % 3 with
  | 0 => key.first
  | 1 => key.second
  | _ => key.first ^^^ key.second ^^^ 0x1BD11BDA

/-- The words added after group `index` of four rounds; the second carries the
number of the group. -/
def subkey (key : Words) (index : Nat) : Words :=
  ⟨scheduleWord key index, scheduleWord key (index + 1) + UInt32.ofNat index⟩

def rotations (group : Nat) : List UInt32 :=
  if group % 2 = 0 then [13, 15, 26, 6] else [17, 29, 16, 24]

def group (key : Words) (block : Words) (index : Nat) : Words :=
  ((rotations index).foldl mix block).add (subkey key (index + 1))

def block (key counter : Words) : Words :=
  [0, 1, 2, 3, 4].foldl (group key) (counter.add (subkey key 0))

end Threefry

end Chip8.Random

import Fabric.Lib.Varint
import Fabric.Protos.Common

/-! `common/ledger/blkstorage/fsblkstorage`: the block files of a ledger and the streams that
read them back. A block is stored as its length, a protobuf varint, followed by its bytes; a
crash while appending can leave a torn block at the end of the last file, which a stream
reports as `ErrUnexpectedEndOfBlockfile`. -/

namespace Fabric.Blkstorage

abbrev Blockfiles := List (Nat × Bytes)

inductive StreamError where
  | unexpectedEndOfBlockfile
  | failed (err : String)
  | panic (msg : String)
  -- The model's loops ran out of fuel; the fuel they get covers every byte read.
  | fuelExhausted
  deriving DecidableEq, Repr

structure BlockPlacementInfo where
  fileNum : Nat
  blockStartOffset : Nat
  blockBytesOffset : Nat
  deriving DecidableEq, Repr

/-- `blockfileStream`: one open file, read from `currentOffset` on. The file does not change
while a stream reads it. -/
structure BlockfileStream where
  fileNum : Nat
  file : Bytes
  currentOffset : Nat
  deriving DecidableEq, Repr

/-- `newBlockfileStream`: open a block file and seek to `startOffset`. -/
def newBlockfileStream (files : Blockfiles) (fileNum startOffset : Nat) :
    Except StreamError BlockfileStream :=
  match files.lookup fileNum with
  | none => .error (.failed "no such file or directory")
  | some file => .ok ⟨fileNum, file, startOffset⟩

/-- `blockfileStream.nextBlockBytesAndPlacementInfo`: the next block's bytes and where it lies,
`none` at the end of the file, and the stream moved past the block. -/
def BlockfileStream.nextBlockBytesAndPlacementInfo (s : BlockfileStream) :
    Except StreamError (Option (Bytes × BlockPlacementInfo) × BlockfileStream) :=
  if s.currentOffset = s.file.length then .ok (none, s)
  -- a stream seeked past the end asks bufio to peek a negative count
  else if s.file.length < s.currentOffset then .error (.failed "bufio: negative count")
  else
    let remainingBytes := s.file.length - s.currentOffset
    -- peek 8 bytes, or what remains
    let (length, n) := Varint.decode ((s.file.drop s.currentOffset).take 8)
    if n = 0 then
      if remainingBytes < 8 then .error .unexpectedEndOfBlockfile
      else .error (.panic "Error in decoding varint bytes")
    else if remainingBytes < n + length then .error .unexpectedEndOfBlockfile
    else
      .ok (some ((s.file.drop (s.currentOffset + n)).take length,
          ⟨s.fileNum, s.currentOffset, s.currentOffset + n⟩),
        { s with currentOffset := s.currentOffset + n + length })

def BlockfileStream.scan : Nat → BlockfileStream → Option Bytes → Nat →
    Option Bytes × Nat × Nat × Option StreamError
  | 0, s, lastBlockBytes, numBlocks => (lastBlockBytes, s.currentOffset, numBlocks, some .fuelExhausted)
  | fuel + 1, s, lastBlockBytes, numBlocks =>
      match s.nextBlockBytesAndPlacementInfo with
      | .error errRead => (lastBlockBytes, s.currentOffset, numBlocks, some errRead)
      | .ok (none, s) => (lastBlockBytes, s.currentOffset, numBlocks, none)
      | .ok (some (blockBytes, _), s) => scan fuel s (some blockBytes) (numBlocks + 1)

/-- `scanForLastCompleteBlock`: the last complete block of a file from `startingOffset` on, the
offset where it ends and the number of complete blocks. A torn block at the end is not an
error. -/
def scanForLastCompleteBlock (files : Blockfiles) (fileNum startingOffset : Nat) :
    Except StreamError (Option Bytes × Nat × Nat) := do
  let s ← newBlockfileStream files fileNum startingOffset
  -- every block read moves the stream forward, so one round per byte is enough
  let (lastBlockBytes, currentOffset, numBlocks, errRead) := s.scan (s.file.length + 1) none 0
  match errRead with
  | none | some .unexpectedEndOfBlockfile => .ok (lastBlockBytes, currentOffset, numBlocks)
  | some errRead => .error errRead

/-- `blockStream`: reads the files from `currentFileNum` up to `endFileNum` in turn. -/
structure BlockStream where
  currentFileNum : Nat
  endFileNum : Nat
  currentFileStream : BlockfileStream
  deriving DecidableEq, Repr

def newBlockStream (files : Blockfiles) (startFileNum startOffset endFileNum : Nat) :
    Except StreamError BlockStream := do
  let s ← newBlockfileStream files startFileNum startOffset
  return ⟨startFileNum, endFileNum, s⟩

def BlockStream.nextFrom (files : Blockfiles) :
    Nat → BlockStream → Except StreamError (Option (Bytes × BlockPlacementInfo) × BlockStream)
  | 0, _ => .error .fuelExhausted
  | fuel + 1, s => do
      let (next, fileStream) ← s.currentFileStream.nextBlockBytesAndPlacementInfo
      match next with
      | some block => return (some block, { s with currentFileStream := fileStream })
      | none =>
          if s.currentFileNum < s.endFileNum then
            let fileStream ← newBlockfileStream files (s.currentFileNum + 1) 0
            nextFrom files fuel
              { s with currentFileNum := s.currentFileNum + 1, currentFileStream := fileStream }
          else return (none, { s with currentFileStream := fileStream })

/-- `blockStream.nextBlockBytesAndPlacementInfo`. -/
def BlockStream.nextBlockBytesAndPlacementInfo (files : Blockfiles) (s : BlockStream) :
    Except StreamError (Option (Bytes × BlockPlacementInfo) × BlockStream) :=
  s.nextFrom files (s.endFileNum - s.currentFileNum + 1)

def frame (blockBytes : Bytes) : Bytes := Varint.encode blockBytes.length ++ blockBytes

end Fabric.Blkstorage

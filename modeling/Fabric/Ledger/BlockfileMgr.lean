import Mathlib.Logic.Function.Basic
import Fabric.Ledger.BlockStream

/-! `blockfileMgr` (fsblkstorage/blockfile_mgr.go): the block store of a ledger. Blocks are
appended to numbered files; a checkpoint in the index database records the file in use, its
size up to the last complete block and the last block number; the index maps block numbers
to where each block starts.

The disk is what survives a crash: the block files, the saved checkpoint and the index. Every
call returns the operations it makes on the disk in the order the code makes them, so that a
crash is a prefix of them (`Disk.crash`). -/

namespace Fabric.Blkstorage

structure CheckpointInfo where
  latestFileChunkSuffixNum : Nat
  latestFileChunksize : Nat
  isChainEmpty : Bool
  lastBlockNumber : Nat
  deriving DecidableEq, Repr

/-- `fileLocPointer` of a block: its file and the offset of its length prefix there. -/
structure FileLocPointer where
  fileSuffixNum : Nat
  offset : Nat
  deriving DecidableEq, Repr

structure Disk where
  blockfiles : Blockfiles
  blkMgrInfo : Option CheckpointInfo
  blockNumIndex : Nat → Option FileLocPointer
  indexCheckpoint : Option Nat

def emptyDisk : Disk := ⟨[], none, fun _ => none, none⟩

inductive DiskOp where
  | openFile (suffix : Nat)
  -- `blockfileWriter.append`: the file is opened with `O_APPEND`, so it writes at the end.
  | append (suffix : Nat) (bytes : Bytes)
  -- `blockfileWriter.truncateFile`: cut the file to `size` if it is longer.
  | truncateFile (suffix : Nat) (size : Nat)
  | saveCurrentInfo (cpInfo : CheckpointInfo)
  -- `blockIndex.indexBlock`: the block's entry and the index checkpoint in one batch.
  | indexBlock (blockNum : Nat) (flp : FileLocPointer)
  deriving DecidableEq, Repr

def updateFile (files : Blockfiles) (suffix : Nat) (change : Bytes → Bytes) : Blockfiles :=
  files.map fun (n, contents) => if n = suffix then (n, change contents) else (n, contents)

def truncateTo (size : Nat) (contents : Bytes) : Bytes :=
  if size < contents.length then contents.take size else contents

def Disk.apply (disk : Disk) : DiskOp → Disk
  | .openFile suffix =>
      if (disk.blockfiles.lookup suffix).isSome then disk
      else { disk with blockfiles := disk.blockfiles ++ [(suffix, [])] }
  | .append suffix bytes => { disk with blockfiles := updateFile disk.blockfiles suffix (· ++ bytes) }
  | .truncateFile suffix size =>
      { disk with blockfiles := updateFile disk.blockfiles suffix (truncateTo size) }
  | .saveCurrentInfo cpInfo => { disk with blkMgrInfo := some cpInfo }
  | .indexBlock blockNum flp =>
      { disk with
        blockNumIndex := Function.update disk.blockNumIndex blockNum (some flp)
        indexCheckpoint := some blockNum }

def Disk.applyAll (disk : Disk) (ops : List DiskOp) : Disk := ops.foldl Disk.apply disk

def Disk.crash (disk : Disk) : List DiskOp → Nat → Nat → Disk
  | [], _, _ => disk
  | .append suffix bytes :: _, 0, torn => disk.apply (.append suffix (bytes.take torn))
  | _ :: _, 0, _ => disk
  | op :: ops, k + 1, torn => (disk.apply op).crash ops k torn

structure BlockCodec (Block : Type) where
  number : Block → Nat
  headerHash : Block → Bytes
  previousHash : Block → Bytes
  serializeBlock : Block → Bytes
  deserializeBlock : Bytes → Except String Block
  deserializeBlock_serializeBlock : ∀ block, deserializeBlock (serializeBlock block) = .ok block

structure BlockchainInfo where
  height : Nat
  currentBlockHash : Bytes
  previousBlockHash : Bytes
  deriving DecidableEq, Repr

structure BlockfileMgr where
  cpInfo : CheckpointInfo
  bcInfo : BlockchainInfo
  deriving DecidableEq, Repr

/-- `Conf`, with the size past which a new block file is started. -/
structure Conf where
  maxBlockfileSize : Nat

def StreamError.message : StreamError → String
  | .unexpectedEndOfBlockfile => "unexpected end of blockfile"
  | .failed err => err
  | .panic msg => msg
  | .fuelExhausted => "fuel exhausted"

variable {Block : Type} (codec : BlockCodec Block)

/-- `moveToNextFile`: the next file is created and a checkpoint for it saved at once. -/
def BlockfileMgr.moveToNextFile (mgr : BlockfileMgr) : List DiskOp × BlockfileMgr :=
  -- the literal does not set isChainEmpty, which is left at Go's zero value
  let cpInfo : CheckpointInfo :=
    ⟨mgr.cpInfo.latestFileChunkSuffixNum + 1, 0, false, mgr.cpInfo.lastBlockNumber⟩
  ([.openFile cpInfo.latestFileChunkSuffixNum, .saveCurrentInfo cpInfo], { mgr with cpInfo })

inductive AddBlockFault where
  | noFault
  -- Writing the length prefix fails after `written` of its bytes.
  | appendLength (written : Nat) (err : String)
  -- Writing or syncing the block's bytes fails after `written` of them.
  | appendBlock (written : Nat) (err : String)
  | saveCheckpoint (err : String)
  | indexBlock (err : String)
  deriving DecidableEq, Repr

/-- `blockfileMgr.addBlock`: the disk operations, the manager after the call and its result. -/
def BlockfileMgr.addBlock (conf : Conf) (fault : AddBlockFault) (block : Block)
    (mgr : BlockfileMgr) : List DiskOp × BlockfileMgr × Except String Unit :=
  let height := mgr.bcInfo.height
  let number := codec.number block
  if number ≠ height then
    ([], mgr, .error s!"Block number should have been {height} but was {number}")
  else
    let blockBytes := codec.serializeBlock block
    let blockBytesEncodedLen := Varint.encode blockBytes.length
    let totalBytesToAppend := blockBytes.length + blockBytesEncodedLen.length
    let (moved, mgr, currentOffset) :=
      if conf.maxBlockfileSize < mgr.cpInfo.latestFileChunksize + totalBytesToAppend then
        let (moved, mgr) := mgr.moveToNextFile
        (moved, mgr, 0)
      else ([], mgr, mgr.cpInfo.latestFileChunksize)
    let suffix := mgr.cpInfo.latestFileChunkSuffixNum
    let rollBack := DiskOp.truncateFile suffix mgr.cpInfo.latestFileChunksize
    let appended := moved ++ [.append suffix blockBytesEncodedLen, .append suffix blockBytes]
    let newCPInfo : CheckpointInfo :=
      ⟨suffix, mgr.cpInfo.latestFileChunksize + totalBytesToAppend, false, number⟩
    match fault with
    | .appendLength written err =>
        (moved ++ [.append suffix (blockBytesEncodedLen.take written), rollBack], mgr,
          .error s!"Error while appending block to file: {err}")
    | .appendBlock written err =>
        (moved ++ [.append suffix blockBytesEncodedLen, .append suffix (blockBytes.take written),
            rollBack], mgr,
          .error s!"Error while appending block to file: {err}")
    | .saveCheckpoint err =>
        (appended ++ [rollBack], mgr, .error s!"Error while saving current file info to db: {err}")
    -- the index write fails after the checkpoint is saved, and nothing is rolled back
    | .indexBlock err => (appended ++ [.saveCurrentInfo newCPInfo], mgr, .error err)
    | .noFault =>
        (appended ++ [.saveCurrentInfo newCPInfo, .indexBlock number ⟨suffix, currentOffset⟩],
          ⟨newCPInfo, ⟨height + 1, codec.headerHash block, codec.previousHash block⟩⟩, .ok ())

def Disk.getBlockLocByBlockNum (disk : Disk) (blockNum : Nat) : Except String FileLocPointer :=
  match disk.blockNumIndex blockNum with
  | none => .error "Entry not found in index"
  | some flp => .ok flp

/-- `fetchBlockBytes`: the bytes of the block at a location, `none` at the end of its file. -/
def fetchBlockBytes (files : Blockfiles) (lp : FileLocPointer) : Except StreamError (Option Bytes) := do
  let stream ← newBlockfileStream files lp.fileSuffixNum lp.offset
  let (next, _) ← stream.nextBlockBytesAndPlacementInfo
  return next.map Prod.fst

/-- `fetchBlock` at the location the index gives for a block number; `retrieveBlockHeaderByNumber`
reads the same block for its header. -/
def Disk.retrieveBlockByNumber (disk : Disk) (blockNum : Nat) : Except String Block := do
  let loc ← disk.getBlockLocByBlockNum blockNum
  let blockBytes ← (fetchBlockBytes disk.blockfiles loc).mapError StreamError.message
  -- at the end of a file Go hands a nil slice to the decoder
  codec.deserializeBlock (blockBytes.getD [])

def BlockfileMgr.retrieveBlockByNumber (disk : Disk) (mgr : BlockfileMgr) (blockNum : Nat) :
    Except String Block :=
  disk.retrieveBlockByNumber codec
    (if blockNum = 2 ^ 64 - 1 then mgr.bcInfo.height - 1 else blockNum)

def syncIndexLoop (files : Blockfiles) :
    Nat → BlockStream → List DiskOp × Except StreamError Unit
  | 0, _ => ([], .error .fuelExhausted)
  | fuel + 1, stream =>
      match stream.nextBlockBytesAndPlacementInfo files with
      | .error err => ([], .error err)
      | .ok (none, _) => ([], .ok ())
      | .ok (some (blockBytes, placement), stream) =>
          match codec.deserializeBlock blockBytes with
          | .error err => ([], .error (.failed err))
          | .ok block =>
              let (ops, result) := syncIndexLoop files fuel stream
              (.indexBlock (codec.number block) ⟨placement.fileNum, placement.blockStartOffset⟩ :: ops,
                result)

def indexFuel (files : Blockfiles) : Nat := (files.map fun file => file.2.length).sum + 1

def syncIndexFrom (files : Blockfiles) (startFileNum startOffset endFileNum : Nat)
    (skipFirstBlock : Option Nat) : List DiskOp × Except StreamError Unit :=
  match newBlockStream files startFileNum startOffset endFileNum with
  | .error err => ([], .error err)
  | .ok stream =>
      match skipFirstBlock with
      | none => syncIndexLoop codec files (indexFuel files) stream
      | some lastBlockIndexed =>
          match stream.nextBlockBytesAndPlacementInfo files with
          | .error err => ([], .error err)
          | .ok (none, _) =>
              ([], .error (.failed s!"block bytes for block num = [{lastBlockIndexed}] should not be nil here. The indexes for the block are already present"))
          | .ok (some _, stream) => syncIndexLoop codec files (indexFuel files) stream

def syncIndex (disk : Disk) (cpInfo : CheckpointInfo) : List DiskOp × Except StreamError Unit :=
  match disk.indexCheckpoint with
  | none => syncIndexFrom codec disk.blockfiles 0 0 cpInfo.latestFileChunkSuffixNum none
  | some lastBlockIndexed =>
      if lastBlockIndexed = cpInfo.lastBlockNumber then ([], .ok ())
      else
        match disk.blockNumIndex lastBlockIndexed with
        | none => ([], .error (.failed "Entry not found in index"))
        | some flp =>
            syncIndexFrom codec disk.blockfiles flp.fileSuffixNum flp.offset
              cpInfo.latestFileChunkSuffixNum (some lastBlockIndexed)

def syncCPInfoFromFS (files : Blockfiles) (cpInfo : CheckpointInfo) : Except String CheckpointInfo :=
  match files.lookup cpInfo.latestFileChunkSuffixNum with
  -- the file of a checkpoint is created when the checkpoint is
  | none => .ok cpInfo
  | some file =>
      if file.length = cpInfo.latestFileChunksize then .ok cpInfo
      else
        match scanForLastCompleteBlock files cpInfo.latestFileChunkSuffixNum cpInfo.latestFileChunksize with
        | .error err =>
            .error s!"Could not open current file for detecting last block in the file: {err.message}"
        | .ok (_, endOffsetLastBlock, numBlocks) =>
            let cpInfo := { cpInfo with latestFileChunksize := endOffsetLastBlock }
            if numBlocks = 0 then .ok cpInfo
            else
              .ok { cpInfo with
                lastBlockNumber :=
                  if cpInfo.isChainEmpty then numBlocks - 1 else cpInfo.lastBlockNumber + numBlocks
                isChainEmpty := false }

def retrieveLastFileSuffix (files : Blockfiles) : Option Nat :=
  files.foldl (fun biggest file => some (match biggest with
    | none => file.1
    | some biggest => max biggest file.1)) none

def constructCheckpointInfoFromBlockFiles (files : Blockfiles) : Except String CheckpointInfo :=
  match retrieveLastFileSuffix files with
  | none => .ok ⟨0, 0, true, 0⟩
  | some lastFileNum => do
      let (lastBlockBytes, endOffsetLastBlock, numBlocksInFile) ←
        (scanForLastCompleteBlock files lastFileNum 0).mapError StreamError.message
      -- a last file without blocks: the last block is in the one before
      let lastBlockBytes ←
        if numBlocksInFile = 0 ∧ 0 < lastFileNum then do
          let (bytes, _, _) ← (scanForLastCompleteBlock files (lastFileNum - 1) 0).mapError StreamError.message
          pure bytes
        else pure lastBlockBytes
      let lastBlockNumber ← match lastBlockBytes with
        | none => pure 0
        | some bytes => do
            let lastBlock ← codec.deserializeBlock bytes
            pure (codec.number lastBlock)
      return ⟨lastFileNum, endOffsetLastBlock, lastFileNum == 0 && numBlocksInFile == 0, lastBlockNumber⟩

def newBlockfileMgr (disk : Disk) : Except String (List DiskOp × BlockfileMgr) := do
  let cpInfo ← match disk.blkMgrInfo with
    | none =>
        (constructCheckpointInfoFromBlockFiles codec disk.blockfiles).mapError fun err =>
          s!"Could not build checkpoint info from block files: {err}"
    | some cpInfo => syncCPInfoFromFS disk.blockfiles cpInfo
  let suffix := cpInfo.latestFileChunkSuffixNum
  -- save the checkpoint, open the writer and cut what follows the last complete block
  let opened := [DiskOp.saveCurrentInfo cpInfo, .openFile suffix,
    .truncateFile suffix cpInfo.latestFileChunksize]
  if cpInfo.isChainEmpty then
    return (opened, ⟨cpInfo, ⟨0, [], []⟩⟩)
  let disk := disk.applyAll opened
  let (indexed, synced) := syncIndex codec disk cpInfo
  -- the error syncIndex returns is dropped; a panic while it reads stops the start
  if let .error (.panic msg) := synced then throw msg
  let lastBlock ← ((disk.applyAll indexed).retrieveBlockByNumber codec cpInfo.lastBlockNumber).mapError
    fun err => s!"Could not retrieve header of the last block form file: {err}"
  return (opened ++ indexed,
    ⟨cpInfo, ⟨cpInfo.lastBlockNumber + 1, codec.headerHash lastBlock, codec.previousHash lastBlock⟩⟩)

structure BlockStore where
  disk : Disk
  mgr : BlockfileMgr

def openBlockStore (disk : Disk) : Except String BlockStore := do
  let (ops, mgr) ← newBlockfileMgr codec disk
  return ⟨disk.applyAll ops, mgr⟩

def BlockStore.addBlock (conf : Conf) (fault : AddBlockFault) (block : Block) (store : BlockStore) :
    BlockStore × Except String Unit :=
  let (ops, mgr, result) := store.mgr.addBlock codec conf fault block
  (⟨store.disk.applyAll ops, mgr⟩, result)

def freshStore : BlockStore :=
  ⟨⟨[(0, [])], some ⟨0, 0, true, 0⟩, fun _ => none, none⟩, ⟨⟨0, 0, true, 0⟩, ⟨0, [], []⟩⟩⟩

structure NumberedBlock where
  number : UInt64
  data : Bytes
  deriving DecidableEq, Repr

def numberedBlockCodec : BlockCodec NumberedBlock where
  number block := block.number.toNat
  headerHash block := Varint.encode block.number.toNat
  previousHash _ := []
  serializeBlock block := Varint.encode block.number.toNat ++ block.data
  deserializeBlock bytes :=
    let (number, n) := Varint.decode bytes
    if n = 0 then .error "proto: bad varint" else .ok ⟨number.toUInt64, bytes.drop n⟩
  deserializeBlock_serializeBlock block := by
    have round := Varint.decode_encode_append (UInt64.toNat_lt block.number) block.data
    have pos := Varint.length_encode_pos block.number.toNat
    simp [round, Nat.pos_iff_ne_zero.mp pos]

end Fabric.Blkstorage

namespace Fabric.Blkstorage

variable {Block : Type} (codec : BlockCodec Block)

@[simp] theorem Disk.applyAll_nil (disk : Disk) : disk.applyAll [] = disk := rfl

@[simp] theorem Disk.applyAll_cons (disk : Disk) (op : DiskOp) (ops : List DiskOp) :
    disk.applyAll (op :: ops) = (disk.apply op).applyAll ops := rfl

theorem updateFile_updateFile (files : Blockfiles) (suffix : Nat) (first second : Bytes → Bytes) :
    updateFile (updateFile files suffix first) suffix second =
      updateFile files suffix (second ∘ first) := by
  simp only [updateFile, List.map_map]
  apply List.map_congr_left
  intro file _
  by_cases suffixOk : file.1 = suffix <;> simp [suffixOk]

/-- A store whose index write fails keeps the block in its file and the checkpoint that counts
it, while the manager's memory stays at the block before: nothing of the two earlier steps
is rolled back. -/
theorem addBlock_index_failure_persists_block (conf : Conf) (err : String) (block : Block)
    (store : BlockStore) (number : codec.number block = store.mgr.bcInfo.height)
    (fits : store.mgr.cpInfo.latestFileChunksize + (frame (codec.serializeBlock block)).length ≤
      conf.maxBlockfileSize) :
    let outcome := store.addBlock codec conf (.indexBlock err) block
    outcome.2 = .error err ∧ outcome.1.mgr = store.mgr ∧
      outcome.1.disk.blockfiles = updateFile store.disk.blockfiles
        store.mgr.cpInfo.latestFileChunkSuffixNum (· ++ frame (codec.serializeBlock block)) ∧
      outcome.1.disk.blkMgrInfo = some ⟨store.mgr.cpInfo.latestFileChunkSuffixNum,
        store.mgr.cpInfo.latestFileChunksize + (frame (codec.serializeBlock block)).length, false,
        codec.number block⟩ := by
  have room : ¬ conf.maxBlockfileSize < store.mgr.cpInfo.latestFileChunksize +
      ((codec.serializeBlock block).length +
        (Varint.encode (codec.serializeBlock block).length).length) := by
    simp only [frame, List.length_append] at fits
    omega
  simp [BlockStore.addBlock, BlockfileMgr.addBlock, number, room, Disk.apply,
    updateFile_updateFile, frame, Function.comp_def, Nat.add_comm]

theorem openBlockStore_emptyDisk : openBlockStore codec emptyDisk = .ok freshStore := rfl

theorem addBlock_index_failure_persists_first_block :
    numberedBlockCodec.number ⟨0, [7]⟩ = freshStore.mgr.bcInfo.height ∧
    freshStore.mgr.cpInfo.latestFileChunksize +
        (frame (numberedBlockCodec.serializeBlock ⟨0, [7]⟩)).length ≤ 1000 ∧
    (let outcome := freshStore.addBlock numberedBlockCodec ⟨1000⟩ (.indexBlock "leveldb: closed") ⟨0, [7]⟩
     outcome.2 = .error "leveldb: closed" ∧ outcome.1.mgr = freshStore.mgr ∧
      outcome.1.disk.blockfiles = updateFile freshStore.disk.blockfiles
        freshStore.mgr.cpInfo.latestFileChunkSuffixNum (· ++ frame (numberedBlockCodec.serializeBlock ⟨0, [7]⟩)) ∧
      outcome.1.disk.blkMgrInfo = some ⟨freshStore.mgr.cpInfo.latestFileChunkSuffixNum,
        freshStore.mgr.cpInfo.latestFileChunksize +
          (frame (numberedBlockCodec.serializeBlock ⟨0, [7]⟩)).length, false,
        numberedBlockCodec.number ⟨0, [7]⟩⟩) ∧
    openBlockStore numberedBlockCodec
        ((freshStore.addBlock numberedBlockCodec ⟨1000⟩ (.indexBlock "leveldb: closed") ⟨0, [7]⟩).1.addBlock
          numberedBlockCodec ⟨1000⟩ .noFault ⟨0, [7]⟩).1.disk =
      .error "Could not retrieve header of the last block form file: Entry not found in index" :=
  ⟨by decide, by decide,
    addBlock_index_failure_persists_block numberedBlockCodec ⟨1000⟩ "leveldb: closed" ⟨0, [7]⟩ freshStore
      (by decide) (by decide),
    rfl⟩

/-- A first block too large for the file in use starts file 1, and `moveToNextFile` saves the
checkpoint of file 1 without `isChainEmpty`. A crash right after that save leaves a disk that
claims block 0 exists, which no later start can find. -/
theorem first_block_rollover_crash_not_reopened (conf : Conf) (block : Block) (store : BlockStore)
    (opened : openBlockStore codec emptyDisk = .ok store) (firstOk : codec.number block = 0)
    (large : conf.maxBlockfileSize < (frame (codec.serializeBlock block)).length) :
    openBlockStore codec (store.disk.crash (store.mgr.addBlock codec conf .noFault block).1 2 0) =
      .error "Could not retrieve header of the last block form file: Entry not found in index" := by
  rw [openBlockStore_emptyDisk] at opened
  cases opened
  have move : conf.maxBlockfileSize < 0 + ((codec.serializeBlock block).length +
      (Varint.encode (codec.serializeBlock block).length).length) := by
    simp only [frame, List.length_append] at large
    omega
  simp only [BlockfileMgr.addBlock, freshStore, firstOk, move, BlockfileMgr.moveToNextFile]
  rfl

theorem first_block_rollover_crash_one_byte_files :
    openBlockStore numberedBlockCodec emptyDisk = .ok freshStore ∧
    numberedBlockCodec.number ⟨0, [7]⟩ = 0 ∧
    1 < (frame (numberedBlockCodec.serializeBlock ⟨0, [7]⟩)).length ∧
    openBlockStore numberedBlockCodec (freshStore.disk.crash
        (freshStore.mgr.addBlock numberedBlockCodec ⟨1⟩ .noFault ⟨0, [7]⟩).1 2 0) =
      .error "Could not retrieve header of the last block form file: Entry not found in index" :=
  ⟨rfl, by decide, by decide,
    first_block_rollover_crash_not_reopened numberedBlockCodec ⟨1⟩ ⟨0, [7]⟩ freshStore rfl
      (by decide) (by decide)⟩

end Fabric.Blkstorage

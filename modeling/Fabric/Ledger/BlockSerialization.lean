import Fabric.Lib.Basic
import Fabric.Lib.Varint
import Fabric.Protos.Common

/-! Blocks as the block files hold them (fsblkstorage/block_serialization.go). The header's
number, the envelopes of the transactions and the metadata entries are written one after the
other, each number a varint and each byte string preceded by its length, by a `proto.Buffer`;
the serializer records where each transaction's bytes start and how long they are. Reading
goes through the `Buffer` of common/ledger/util, which counts the bytes consumed from the
values it decodes (`SizeVarint` of the value) and not from the bytes it read: the two agree on
what the serializer writes, so recovery (`extractSerializedBlockInfo`) finds the locations the
serializer recorded. -/

namespace Fabric.Fsblkstorage

structure BlockHeader where
  number : UInt64
  previousHash : Bytes
  dataHash : Bytes
  deriving DecidableEq, Repr

structure BlockData where
  data : List Bytes
  deriving DecidableEq, Repr

structure BlockMetadata where
  metadata : List Bytes
  deriving DecidableEq, Repr

/-- `common.Block`, whose three parts are pointers that may be nil. A nil byte slice and an
empty one are both the empty list. -/
structure Block where
  header : Option BlockHeader
  data : Option BlockData
  metadata : Option BlockMetadata
  deriving DecidableEq, Repr

structure LocPointer where
  offset : Nat
  bytesLength : Nat
  deriving DecidableEq, Repr

structure TxindexInfo where
  txID : Bytes
  loc : LocPointer
  isDuplicate : Bool
  deriving DecidableEq, Repr

structure SerializedBlockInfo where
  blockHeader : BlockHeader
  txOffsets : List TxindexInfo
  metadata : BlockMetadata
  deriving DecidableEq, Repr

/-- `common.ChannelHeader`, of which the index reads the transaction id. -/
structure ChannelHeader where
  txId : Bytes
  deriving DecidableEq, Repr

structure Header where
  channelHeader : Bytes
  deriving DecidableEq, Repr

/-- `common.Payload`, whose header is a pointer. -/
structure Payload where
  header : Option Header
  deriving DecidableEq, Repr

structure EnvelopeDecoder where
  getEnvelopeFromBlock : Bytes → Except String Envelope
  getPayload : Envelope → Except String Payload
  unmarshalChannelHeader : Bytes → Except String ChannelHeader

def nilDereference : String := "runtime error: invalid memory address or nil pointer dereference"

section Serialize

variable (decoder : EnvelopeDecoder)

def extractTxID (txEnvelopBytes : Bytes) : Except String Bytes := do
  let txEnvelope ← decoder.getEnvelopeFromBlock txEnvelopBytes
  match decoder.getPayload txEnvelope with
  -- the error of the payload is dropped: the transaction's id is empty
  | .error _ => pure []
  | .ok txPayload =>
      let some header := txPayload.header | throw nilDereference
      let chdr ← decoder.unmarshalChannelHeader header.channelHeader
      pure chdr.txId

def encodeRawBytes (b : Bytes) : Bytes := Varint.encode b.length ++ b

def addHeaderBytes (blockHeader : BlockHeader) (buf : Bytes) : Bytes :=
  buf ++ Varint.encode blockHeader.number.toNat ++ encodeRawBytes blockHeader.dataHash ++
    encodeRawBytes blockHeader.previousHash

def addTxBytes : List TxindexInfo × Bytes → Bytes → Except String (List TxindexInfo × Bytes)
  | (txOffsets, buf), txEnvelopeBytes => do
    let offset := buf.length
    let txid ← extractTxID decoder txEnvelopeBytes
    let buf := buf ++ encodeRawBytes txEnvelopeBytes
    pure (txOffsets ++ [⟨txid, ⟨offset, buf.length - offset⟩, false⟩], buf)

def addDataBytes (blockData : BlockData) (buf : Bytes) : Except String (List TxindexInfo × Bytes) :=
  blockData.data.foldlM (addTxBytes decoder) ([], buf ++ Varint.encode blockData.data.length)

/-- `addMetadataBytes` on metadata that is there. -/
def addMetadataBytes (blockMetadata : BlockMetadata) (buf : Bytes) : Bytes :=
  blockMetadata.metadata.foldl (fun buf b => buf ++ encodeRawBytes b)
    (buf ++ Varint.encode blockMetadata.metadata.length)

/-- `serializeBlock`: the bytes of a block and what the index needs of them. Each part is
dereferenced where the code first reads it; nil metadata is counted as no entries and then
ranged over. -/
def serializeBlock (block : Block) : Except String (Bytes × SerializedBlockInfo) := do
  let some blockHeader := block.header | throw nilDereference
  let buf := addHeaderBytes blockHeader []
  let some blockData := block.data | throw nilDereference
  let (txOffsets, buf) ← addDataBytes decoder blockData buf
  let some blockMetadata := block.metadata | throw nilDereference
  pure (addMetadataBytes blockMetadata buf, ⟨blockHeader, txOffsets, blockMetadata⟩)

end Serialize

/-- `proto.Buffer` while it reads: the bytes and the index of the next one. -/
structure ProtoBuffer where
  buf : Bytes
  index : Nat
  deriving DecidableEq, Repr

def ProtoBuffer.decodeVarint (p : ProtoBuffer) : Except String (Nat × ProtoBuffer) := do
  let (x, n) ← Varint.readFrom 10 0 (p.buf.drop p.index)
  pure (x, { p with index := p.index + n })

def ProtoBuffer.decodeRawBytes (p : ProtoBuffer) : Except String (Bytes × ProtoBuffer) := do
  let (n, p) ← p.decodeVarint
  -- int(n) is negative from 2^63 on
  let nb : Int := n - 2 ^ 64
  if 2 ^ 63 ≤ n then throw s!"proto: bad byte length {nb}"
  if p.buf.length < p.index + n then throw "unexpected EOF"
  pure ((p.buf.drop p.index).take n, { p with index := p.index + n })

structure Buffer where
  buf : ProtoBuffer
  position : Nat
  deriving DecidableEq, Repr

def newBuffer (b : Bytes) : Buffer := ⟨⟨b, 0⟩, 0⟩

def Buffer.decodeVarint (b : Buffer) : Except String (Nat × Buffer) := do
  let (val, buf) ← b.buf.decodeVarint
  pure (val, ⟨buf, b.position + Varint.sizeVarint val⟩)

def Buffer.decodeRawBytes (b : Buffer) : Except String (Bytes × Buffer) := do
  let (val, buf) ← b.buf.decodeRawBytes
  pure (val, ⟨buf, b.position + Varint.sizeVarint val.length + val.length⟩)

def Buffer.getBytesConsumed (b : Buffer) : Nat := b.position

def extractHeader (buf : Buffer) : Except String (BlockHeader × Buffer) := do
  let (number, buf) ← buf.decodeVarint
  let (dataHash, buf) ← buf.decodeRawBytes
  let (previousHash, buf) ← buf.decodeRawBytes
  pure (⟨number.toUInt64, previousHash, dataHash⟩, buf)

section Extract

variable (decoder : EnvelopeDecoder)

def extractTxs : Nat → Buffer → Except String (List Bytes × List TxindexInfo × Buffer)
  | 0, buf => pure ([], [], buf)
  | numItems + 1, buf => do
    let txOffset := buf.getBytesConsumed
    let (txEnvBytes, buf) ← buf.decodeRawBytes
    let txid ← extractTxID decoder txEnvBytes
    let idxInfo : TxindexInfo := ⟨txid, ⟨txOffset, buf.getBytesConsumed - txOffset⟩, false⟩
    let (data, txOffsets, buf) ← extractTxs numItems buf
    pure (txEnvBytes :: data, idxInfo :: txOffsets, buf)

def extractData (buf : Buffer) : Except String (BlockData × List TxindexInfo × Buffer) := do
  let (numItems, buf) ← buf.decodeVarint
  let (data, txOffsets, buf) ← extractTxs decoder numItems buf
  pure (⟨data⟩, txOffsets, buf)

def extractMetadataEntries : Nat → Buffer → Except String (List Bytes × Buffer)
  | 0, buf => pure ([], buf)
  | numItems + 1, buf => do
    let (metadataEntry, buf) ← buf.decodeRawBytes
    let (metadata, buf) ← extractMetadataEntries numItems buf
    pure (metadataEntry :: metadata, buf)

def extractMetadata (buf : Buffer) : Except String (BlockMetadata × Buffer) := do
  let (numItems, buf) ← buf.decodeVarint
  let (metadata, buf) ← extractMetadataEntries numItems buf
  pure (⟨metadata⟩, buf)

def deserializeBlock (serializedBlockBytes : Bytes) : Except String Block := do
  let b := newBuffer serializedBlockBytes
  let (header, b) ← extractHeader b
  let (data, _, b) ← extractData decoder b
  let (metadata, _) ← extractMetadata b
  pure ⟨some header, some data, some metadata⟩

def extractSerializedBlockInfo (serializedBlockBytes : Bytes) : Except String SerializedBlockInfo := do
  let b := newBuffer serializedBlockBytes
  let (blockHeader, b) ← extractHeader b
  let (_, txOffsets, b) ← extractData decoder b
  let (metadata, _) ← extractMetadata b
  pure ⟨blockHeader, txOffsets, metadata⟩

end Extract

def Buffer.atOffset (bytes : Bytes) (consumed : Nat) : Buffer := ⟨⟨bytes, consumed⟩, consumed⟩

theorem newBuffer_eq_atOffset (bytes : Bytes) : newBuffer bytes = Buffer.atOffset bytes 0 := rfl

theorem drop_length_append (pre mid rest : Bytes) : (pre ++ mid ++ rest).drop pre.length = mid ++ rest := by
  rw [List.append_assoc, List.drop_left]

section Read

variable {bytes rest : Bytes} {consumed : Nat}

theorem ProtoBuffer.decodeVarint_encode {p : ProtoBuffer} {x : Nat} (xHolds : x < 2 ^ 64)
    (reads : p.buf.drop p.index = Varint.encode x ++ rest) :
    p.decodeVarint = .ok (x, { p with index := p.index + (Varint.encode x).length }) := by
  simp only [ProtoBuffer.decodeVarint, reads, Varint.readFrom_encode_append xHolds, Except.ok_bind]
  rfl

theorem Buffer.decodeVarint_atOffset {x : Nat} (xHolds : x < 2 ^ 64)
    (reads : bytes.drop consumed = Varint.encode x ++ rest) :
    (Buffer.atOffset bytes consumed).decodeVarint =
      .ok (x, Buffer.atOffset bytes (consumed + (Varint.encode x).length)) := by
  have read : (ProtoBuffer.mk bytes consumed).decodeVarint =
      .ok (x, ⟨bytes, consumed + (Varint.encode x).length⟩) :=
    ProtoBuffer.decodeVarint_encode xHolds reads
  simp only [Buffer.decodeVarint, Buffer.atOffset, read, Except.ok_bind, Varint.sizeVarint_eq_length_encode]
  rfl

theorem Buffer.decodeRawBytes_atOffset {v : Bytes} (fits : v.length < 2 ^ 63)
    (reads : bytes.drop consumed = encodeRawBytes v ++ rest) :
    (Buffer.atOffset bytes consumed).decodeRawBytes =
      .ok (v, Buffer.atOffset bytes (consumed + (encodeRawBytes v).length)) := by
  have prefixed : bytes.drop consumed = Varint.encode v.length ++ (v ++ rest) := by
    rw [reads, encodeRawBytes, List.append_assoc]
  -- the bytes after the length are the string and what follows it
  have body : bytes.drop (consumed + (Varint.encode v.length).length) = v ++ rest := by
    rw [← List.drop_drop, prefixed, List.drop_left]
  have enough : ¬bytes.length < consumed + (Varint.encode v.length).length + v.length := by
    have total := congrArg List.length reads
    have nonempty := Varint.length_encode_pos v.length
    simp only [List.length_drop, List.length_append, encodeRawBytes] at total
    omega
  have read : (ProtoBuffer.mk bytes consumed).decodeVarint =
      .ok (v.length, ⟨bytes, consumed + (Varint.encode v.length).length⟩) :=
    ProtoBuffer.decodeVarint_encode (by omega) prefixed
  simp only [Buffer.decodeRawBytes, ProtoBuffer.decodeRawBytes, Buffer.atOffset, read, Except.ok_bind,
    if_neg (show ¬2 ^ 63 ≤ v.length by omega), if_neg enough, body, List.take_left,
    Varint.sizeVarint_eq_length_encode, encodeRawBytes, List.length_append]
  simp only [pure, Except.pure, Except.ok_bind, Nat.add_assoc]

end Read

structure BlockFits (header : BlockHeader) (data : BlockData) (metadata : BlockMetadata) : Prop where
  dataHash : header.dataHash.length < 2 ^ 63
  previousHash : header.previousHash.length < 2 ^ 63
  txs : data.data.length < 2 ^ 63
  tx : ∀ tx ∈ data.data, tx.length < 2 ^ 63
  entries : metadata.metadata.length < 2 ^ 63
  entry : ∀ entry ∈ metadata.metadata, entry.length < 2 ^ 63

theorem extractHeader_addHeaderBytes (header : BlockHeader) (dataHash : header.dataHash.length < 2 ^ 63)
    (previousHash : header.previousHash.length < 2 ^ 63) (pre rest : Bytes) :
    extractHeader (Buffer.atOffset (addHeaderBytes header pre ++ rest) pre.length) =
      .ok (header, Buffer.atOffset (addHeaderBytes header pre ++ rest) (addHeaderBytes header pre).length) := by
  have number := Buffer.decodeVarint_atOffset header.number.toNat_lt
    (drop_length_append pre (Varint.encode header.number.toNat)
      (encodeRawBytes header.dataHash ++ encodeRawBytes header.previousHash ++ rest))
  have hash := Buffer.decodeRawBytes_atOffset dataHash
    (drop_length_append (pre ++ Varint.encode header.number.toNat) (encodeRawBytes header.dataHash)
      (encodeRawBytes header.previousHash ++ rest))
  have previous := Buffer.decodeRawBytes_atOffset previousHash
    (drop_length_append (pre ++ Varint.encode header.number.toNat ++ encodeRawBytes header.dataHash)
      (encodeRawBytes header.previousHash) rest)
  simp only [List.append_assoc, List.length_append] at number hash previous
  simp only [extractHeader, addHeaderBytes, List.append_assoc, List.length_append, number, hash, previous,
    Except.ok_bind, Nat.add_assoc, Nat.toUInt64_eq, UInt64.ofNat_toNat]
  rfl

section Data

variable (decoder : EnvelopeDecoder)

theorem foldlM_addTxBytes_extractTxs :
    ∀ (txs : List Bytes), (∀ tx ∈ txs, tx.length < 2 ^ 63) → (∀ tx ∈ txs, ∃ txid, extractTxID decoder tx = .ok txid) →
      ∀ (txOffsets : List TxindexInfo) (pre rest : Bytes), ∃ infos,
        txs.foldlM (addTxBytes decoder) (txOffsets, pre) = .ok (txOffsets ++ infos, pre ++ txs.flatMap encodeRawBytes) ∧
        extractTxs decoder txs.length (Buffer.atOffset (pre ++ txs.flatMap encodeRawBytes ++ rest) pre.length) =
          .ok (txs, infos, Buffer.atOffset (pre ++ txs.flatMap encodeRawBytes ++ rest)
            (pre ++ txs.flatMap encodeRawBytes).length) ∧
        List.Forall₂ (fun tx info => extractTxID decoder tx = .ok info.txID ∧
          ((pre ++ txs.flatMap encodeRawBytes ++ rest).drop info.loc.offset).take info.loc.bytesLength =
            encodeRawBytes tx) txs infos
  | [], _, _, txOffsets, pre, rest => ⟨[], by simp; rfl, by simp [extractTxs]; rfl, .nil⟩
  | tx :: txs, fits, ids, txOffsets, pre, rest => by
    obtain ⟨txid, id⟩ := ids tx List.mem_cons_self
    let info : TxindexInfo := ⟨txid, ⟨pre.length, (encodeRawBytes tx).length⟩, false⟩
    obtain ⟨infos, added, extracted, slices⟩ := foldlM_addTxBytes_extractTxs txs
      (fun other member => fits other (List.mem_cons_of_mem tx member))
      (fun other member => ids other (List.mem_cons_of_mem tx member)) (txOffsets ++ [info])
      (pre ++ encodeRawBytes tx) rest
    -- the bytes of all the transactions are this one's and then the others'
    have whole : pre ++ encodeRawBytes tx ++ txs.flatMap encodeRawBytes ++ rest =
        pre ++ (tx :: txs).flatMap encodeRawBytes ++ rest := by
      simp only [List.flatMap_cons, List.append_assoc]
    have read := Buffer.decodeRawBytes_atOffset (fits tx List.mem_cons_self)
      (drop_length_append pre (encodeRawBytes tx) (txs.flatMap encodeRawBytes ++ rest))
    rw [whole] at extracted slices
    rw [← List.append_assoc, whole] at read
    refine ⟨info :: infos, ?_, ?_, ?_⟩
    · have step : addTxBytes decoder (txOffsets, pre) tx = .ok (txOffsets ++ [info], pre ++ encodeRawBytes tx) := by
        simp only [addTxBytes, id, Except.ok_bind, List.length_append, Nat.add_sub_cancel_left]
        rfl
      rw [List.foldlM_cons, step, Except.ok_bind, added]
      simp only [List.append_assoc, List.singleton_append, List.flatMap_cons]
    · simp only [List.length_cons, extractTxs, Buffer.getBytesConsumed, read, Except.ok_bind, id]
      simp only [Buffer.atOffset, List.length_append] at extracted ⊢
      simp only [Nat.add_sub_cancel_left, extracted, Except.ok_bind]
      simp only [List.flatMap_cons, List.length_append, Nat.add_assoc]
      rfl
    · refine List.Forall₂.cons ⟨id, ?_⟩ slices
      rw [← whole, List.append_assoc, List.append_assoc, List.drop_left, List.take_left]

theorem foldl_encodeRawBytes (entries : List Bytes) (buf : Bytes) :
    entries.foldl (fun buf b => buf ++ encodeRawBytes b) buf = buf ++ entries.flatMap encodeRawBytes := by
  induction entries generalizing buf with
  | nil => simp
  | cons entry entries ih => simp [ih, List.append_assoc]

theorem addMetadataBytes_eq (blockMetadata : BlockMetadata) (buf : Bytes) :
    addMetadataBytes blockMetadata buf =
      buf ++ Varint.encode blockMetadata.metadata.length ++ blockMetadata.metadata.flatMap encodeRawBytes :=
  foldl_encodeRawBytes _ _

theorem extractMetadataEntries_encode :
    ∀ (entries : List Bytes), (∀ entry ∈ entries, entry.length < 2 ^ 63) → ∀ (pre rest : Bytes),
      extractMetadataEntries entries.length
          (Buffer.atOffset (pre ++ entries.flatMap encodeRawBytes ++ rest) pre.length) =
        .ok (entries, Buffer.atOffset (pre ++ entries.flatMap encodeRawBytes ++ rest)
          (pre ++ entries.flatMap encodeRawBytes).length)
  | [], _, pre, rest => by simp [extractMetadataEntries]; rfl
  | entry :: entries, fits, pre, rest => by
    have whole : pre ++ encodeRawBytes entry ++ entries.flatMap encodeRawBytes ++ rest =
        pre ++ (entry :: entries).flatMap encodeRawBytes ++ rest := by
      simp only [List.flatMap_cons, List.append_assoc]
    have read := Buffer.decodeRawBytes_atOffset (fits entry List.mem_cons_self)
      (drop_length_append pre (encodeRawBytes entry) (entries.flatMap encodeRawBytes ++ rest))
    have later := extractMetadataEntries_encode entries (fun other member => fits other (List.mem_cons_of_mem entry member))
      (pre ++ encodeRawBytes entry) rest
    rw [← List.append_assoc, whole] at read
    rw [whole, List.length_append] at later
    simp only [List.length_cons, extractMetadataEntries, read, later, Except.ok_bind]
    simp only [List.flatMap_cons, List.append_assoc, List.length_append]
    rfl

theorem extractMetadata_addMetadataBytes (blockMetadata : BlockMetadata)
    (entries : blockMetadata.metadata.length < 2 ^ 63) (entry : ∀ entry ∈ blockMetadata.metadata, entry.length < 2 ^ 63)
    (pre rest : Bytes) :
    extractMetadata (Buffer.atOffset (addMetadataBytes blockMetadata pre ++ rest) pre.length) =
      .ok (blockMetadata, Buffer.atOffset (addMetadataBytes blockMetadata pre ++ rest)
        (addMetadataBytes blockMetadata pre).length) := by
  have count := Buffer.decodeVarint_atOffset (by omega : blockMetadata.metadata.length < 2 ^ 64)
    (drop_length_append pre (Varint.encode blockMetadata.metadata.length)
      (blockMetadata.metadata.flatMap encodeRawBytes ++ rest))
  have read := extractMetadataEntries_encode blockMetadata.metadata entry
    (pre ++ Varint.encode blockMetadata.metadata.length) rest
  rw [← List.append_assoc] at count
  rw [List.length_append] at read
  simp only [extractMetadata, addMetadataBytes_eq, count, read, Except.ok_bind]
  rfl

theorem addDataBytes_extractData (blockData : BlockData) (txs : blockData.data.length < 2 ^ 63)
    (tx : ∀ tx ∈ blockData.data, tx.length < 2 ^ 63) (ids : ∀ tx ∈ blockData.data, ∃ txid, extractTxID decoder tx = .ok txid)
    (pre rest : Bytes) :
    ∃ txOffsets, addDataBytes decoder blockData pre =
        .ok (txOffsets, pre ++ Varint.encode blockData.data.length ++ blockData.data.flatMap encodeRawBytes) ∧
      extractData decoder (Buffer.atOffset
          (pre ++ Varint.encode blockData.data.length ++ blockData.data.flatMap encodeRawBytes ++ rest) pre.length) =
        .ok (blockData, txOffsets, Buffer.atOffset
          (pre ++ Varint.encode blockData.data.length ++ blockData.data.flatMap encodeRawBytes ++ rest)
          (pre ++ Varint.encode blockData.data.length ++ blockData.data.flatMap encodeRawBytes).length) ∧
      List.Forall₂ (fun tx info => extractTxID decoder tx = .ok info.txID ∧
        ((pre ++ Varint.encode blockData.data.length ++ blockData.data.flatMap encodeRawBytes ++ rest).drop
          info.loc.offset).take info.loc.bytesLength = encodeRawBytes tx) blockData.data txOffsets := by
  obtain ⟨txOffsets, added, extracted, slices⟩ :=
    foldlM_addTxBytes_extractTxs decoder blockData.data tx ids [] (pre ++ Varint.encode blockData.data.length) rest
  have count := Buffer.decodeVarint_atOffset (by omega : blockData.data.length < 2 ^ 64)
    (drop_length_append pre (Varint.encode blockData.data.length) (blockData.data.flatMap encodeRawBytes ++ rest))
  rw [← List.append_assoc] at count
  rw [List.length_append] at extracted
  refine ⟨txOffsets, added, ?_, slices⟩
  simp only [extractData, count, extracted, Except.ok_bind]
  rfl

end Data

section RoundTrip

variable (decoder : EnvelopeDecoder)

theorem serializeBlock_round_trip (header : BlockHeader) (data : BlockData) (metadata : BlockMetadata)
    (fits : BlockFits header data metadata) (ids : ∀ tx ∈ data.data, ∃ txid, extractTxID decoder tx = .ok txid) :
    ∃ bytes info, serializeBlock decoder ⟨some header, some data, some metadata⟩ = .ok (bytes, info) ∧
      deserializeBlock decoder bytes = .ok ⟨some header, some data, some metadata⟩ ∧
      extractSerializedBlockInfo decoder bytes = .ok info ∧
      List.Forall₂ (fun tx txOffset => extractTxID decoder tx = .ok txOffset.txID ∧
        (bytes.drop txOffset.loc.offset).take txOffset.loc.bytesLength = Varint.encode tx.length ++ tx)
        data.data info.txOffsets := by
  -- the bytes of the metadata follow those of the transactions, which follow the header's
  let metadataBytes := Varint.encode metadata.metadata.length ++ metadata.metadata.flatMap encodeRawBytes
  let dataBytes := addHeaderBytes header [] ++ Varint.encode data.data.length ++ data.data.flatMap encodeRawBytes
  obtain ⟨txOffsets, added, extracted, slices⟩ :=
    addDataBytes_extractData decoder data fits.txs fits.tx ids (addHeaderBytes header []) metadataBytes
  have whole : addMetadataBytes metadata dataBytes = dataBytes ++ metadataBytes := by
    rw [addMetadataBytes_eq, List.append_assoc]
  have headerRead := extractHeader_addHeaderBytes header fits.dataHash fits.previousHash []
    (Varint.encode data.data.length ++ data.data.flatMap encodeRawBytes ++ metadataBytes)
  have metadataRead := extractMetadata_addMetadataBytes metadata fits.entries fits.entry dataBytes []
  simp only [List.append_assoc] at headerRead
  simp only [List.append_nil, whole] at metadataRead
  simp only [List.append_assoc] at extracted slices metadataRead whole
  refine ⟨addMetadataBytes metadata dataBytes, ⟨header, txOffsets, metadata⟩, ?_, ?_, ?_, ?_⟩
  · simp only [serializeBlock, added, Except.ok_bind]
    rfl
  · simp only [deserializeBlock, newBuffer_eq_atOffset, whole, List.length_nil] at headerRead ⊢
    simp only [dataBytes, List.append_assoc] at metadataRead ⊢
    simp only [headerRead, Except.ok_bind, extracted, metadataRead]
    rfl
  · simp only [extractSerializedBlockInfo, newBuffer_eq_atOffset, whole, List.length_nil] at headerRead ⊢
    simp only [dataBytes, List.append_assoc] at metadataRead ⊢
    simp only [headerRead, Except.ok_bind, extracted, metadataRead]
    rfl
  · rw [whole]
    simpa only [dataBytes, List.append_assoc, encodeRawBytes] using slices

theorem serializeBlock_round_trip_of_two_txs :
    let decoder : EnvelopeDecoder :=
      ⟨fun b => .ok ⟨b, []⟩, fun e => .ok ⟨some ⟨e.payload⟩⟩, fun b => .ok ⟨b⟩⟩
    BlockFits ⟨7, [1], [2, 3]⟩ ⟨[[0x74, 0x31], [0x74, 0x32]]⟩ ⟨[[], [0]]⟩ ∧
      (∀ tx ∈ [[0x74, 0x31], [0x74, 0x32]], ∃ txid, extractTxID decoder tx = .ok txid) ∧
      ∃ bytes info, serializeBlock decoder
          ⟨some ⟨7, [1], [2, 3]⟩, some ⟨[[0x74, 0x31], [0x74, 0x32]]⟩, some ⟨[[], [0]]⟩⟩ = .ok (bytes, info) ∧
        deserializeBlock decoder bytes =
          .ok ⟨some ⟨7, [1], [2, 3]⟩, some ⟨[[0x74, 0x31], [0x74, 0x32]]⟩, some ⟨[[], [0]]⟩⟩ ∧
        extractSerializedBlockInfo decoder bytes = .ok info ∧
        List.Forall₂ (fun tx txOffset => extractTxID decoder tx = .ok txOffset.txID ∧
          (bytes.drop txOffset.loc.offset).take txOffset.loc.bytesLength = Varint.encode tx.length ++ tx)
          [[0x74, 0x31], [0x74, 0x32]] info.txOffsets := by
  intro decoder
  have fits : BlockFits ⟨7, [1], [2, 3]⟩ ⟨[[0x74, 0x31], [0x74, 0x32]]⟩ ⟨[[], [0]]⟩ :=
    ⟨by decide, by decide, by decide, by decide, by decide, by decide⟩
  have ids : ∀ tx ∈ [[0x74, 0x31], [0x74, 0x32]], ∃ txid, extractTxID decoder tx = .ok txid :=
    fun _ _ => ⟨_, rfl⟩
  exact ⟨fits, ids, serializeBlock_round_trip decoder _ _ _ fits ids⟩

end RoundTrip

end Fabric.Fsblkstorage

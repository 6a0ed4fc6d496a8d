import Fabric.Lib.Basic
import Fabric.Lib.PathString
import Fabric.Lib.ThresholdTree
import Fabric.Protos.Common
import Fabric.Policy.Cauthdsl
import Fabric.Policy.Soundness
import Fabric.Policy.Manager
import Fabric.Orderer.BlockCutter
import Fabric.Orderer.Kafka
import Fabric.Lib.ByteString
import Fabric.Lib.Varint
import Fabric.Lib.Utf8
import Fabric.Ledger.BlockStream
import Fabric.Ledger.BlockfileMgr
import Fabric.Lib.SortedAssoc
import Fabric.Ledger.Statedb
import Fabric.Ledger.Rwset
import Fabric.Ledger.StateValidator
import Fabric.Ledger.QueryHelper
import Fabric.Configtx.Config
import Fabric.Configtx.ConfigMap
import Fabric.Configtx.Update
import Fabric.Orderer.SystemChannel
import Fabric.Ledger.HistoryDb
import Fabric.Lib.OrderedStore
import Fabric.Lib.BigEndian
import Fabric.Ledger.ConfigHistory
import Fabric.Committer.Vscc
import Fabric.Ledger.KvLedger
import Fabric.Ledger.PvtState
import Fabric.Ledger.PvtdataStore
import Fabric.Ledger.PurgeMgr
import Fabric.Orderer.BlockWriter
import Fabric.Lib.GoSlice
import Fabric.Graph.Perm
import Fabric.Policy.Inquire
import Fabric.Gossip.State
import Fabric.Ledger.CombinedIterator
import Fabric.Policy.Merge
import Fabric.Discovery.Endorsement
import Fabric.Committer.Validator
import Fabric.Gossip.Discovery
import Fabric.Gossip.Privdata
import Fabric.Policy.ImplicitMeta
import Fabric.Gossip.MsgStore
import Fabric.Ledger.StateLeveldb
import Fabric.Ledger.PvtdataRetrieval
import Fabric.Ledger.Version
import Fabric.Ledger.MerkleTree
import Fabric.Chaincode.Shim
import Fabric.Ledger.ExpiryKeeper
import Fabric.Lib.Govaluate
import Fabric.Policy.PolicyParser
import Fabric.Policy.PolicyLanguage
import Fabric.Transientstore.Keys
import Fabric.Transientstore.Store
import Fabric.Ledger.BlockSerialization
import Fabric.Ledger.BlockIndex

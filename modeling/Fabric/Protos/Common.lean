import Mathlib.Data.List.Basic

/-! Message shapes shared by the peer and the orderer, after protobuf decoding.
Byte strings are lists of bytes; decoding itself is not modelled. -/

namespace Fabric

abbrev Bytes := List UInt8

/-- `common.SignedData`: a signed message with the serialized identity of its signer. -/
structure SignedData where
  data : Bytes
  identity : Bytes
  signature : Bytes
  deriving DecidableEq, Repr

/-- `common.Envelope`: a marshalled payload and its signature. -/
structure Envelope where
  payload : Bytes
  signature : Bytes
  deriving DecidableEq, Repr

/-- `common.HeaderType`, as read from an envelope's channel header. -/
inductive HeaderType where
  | message
  | config
  | configUpdate
  | endorserTransaction
  | ordererTransaction
  | deliverSeekInfo
  | chaincodePackage
  | peerAdminOperation
  deriving DecidableEq, Repr

def HeaderType.number : HeaderType → Nat
  | .message => 0
  | .config => 1
  | .configUpdate => 2
  | .endorserTransaction => 3
  | .ordererTransaction => 4
  | .deliverSeekInfo => 5
  | .chaincodePackage => 6
  | .peerAdminOperation => 8

inductive TxValidationCode where
  | valid
  | nilEnvelope
  | badPayload
  | badCommonHeader
  | badCreatorSignature
  | invalidEndorserTransaction
  | invalidConfigTransaction
  | unsupportedTxPayload
  | badProposalTxid
  | duplicateTxid
  | endorsementPolicyFailure
  | mvccReadConflict
  | phantomReadConflict
  | unknownTxType
  | targetChainNotFound
  | marshalTxError
  | nilTxaction
  | expiredChaincode
  | chaincodeVersionConflict
  | badHeaderExtension
  | badChannelHeader
  | badResponsePayload
  | badRwset
  | illegalWriteset
  | invalidWriteset
  | notValidated
  | invalidOtherReason
  deriving DecidableEq, Repr

structure IdentityDeserializer (Identity Principal : Type) where
  -- X.509 parsing and the signature schemes are parameters of the model
  deserializeIdentity : Bytes → Option Identity
  mspid : Identity → String
  id : Identity → String
  satisfiesPrincipal : Identity → Principal → Bool
  verify : Identity → Bytes → Bytes → Bool

end Fabric

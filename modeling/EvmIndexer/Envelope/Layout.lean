import EvmIndexer.Rlp.Item

/-!
# The layouts of an envelope

An envelope is a list of fields followed by the three items of the signature.
There are five layouts: the legacy one, and one for each of the types 1 to 4,
which add an access list, a fee market, blobs and authorizations. A layout is
the list of its fields in order, and everything that depends on the type of an
envelope is read off that list.
-/

namespace EvmIndexer.Envelope

inductive Field where
  | chainId
  | nonce
  | gasPrice
  | maxPriorityFeePerGas
  | maxFeePerGas
  | gasLimit
  | recipient
  | value
  | data
  | accessList
  | maxFeePerBlobGas
  | blobVersionedHashes
  | authorizationList
deriving DecidableEq, Repr

def Field.name : Field → String
  | .chainId => "chain_id"
  | .nonce => "nonce"
  | .gasPrice => "gas_price"
  | .maxPriorityFeePerGas => "max_priority_fee_per_gas"
  | .maxFeePerGas => "max_fee_per_gas"
  | .gasLimit => "gas_limit"
  | .recipient => "to"
  | .value => "value"
  | .data => "data"
  | .accessList => "access_list"
  | .maxFeePerBlobGas => "max_fee_per_blob_gas"
  | .blobVersionedHashes => "blob_versioned_hashes"
  | .authorizationList => "authorization_list"

def legacyLayout : List Field :=
  [.nonce, .gasPrice, .gasLimit, .recipient, .value, .data]

/-- The fields that the types 2, 3 and 4 have in common. -/
def feeMarketLayout : List Field :=
  [.chainId, .nonce, .maxPriorityFeePerGas, .maxFeePerGas, .gasLimit,
    .recipient, .value, .data, .accessList]

def typedLayout? : Nat → Option (List Field)
  | 1 => some [.chainId, .nonce, .gasPrice, .gasLimit, .recipient, .value,
      .data, .accessList]
  | 2 => some feeMarketLayout
  | 3 => some (feeMarketLayout ++ [.maxFeePerBlobGas, .blobVersionedHashes])
  | 4 => some (feeMarketLayout ++ [.authorizationList])
  | _ => none

def signatureSize : Nat := 3

end EvmIndexer.Envelope

import NftExchange.Json.Record

/-!
# Official NFT batches

A run of NFTs that the chain's operator inserts or that is voted in.
-/

namespace NftExchange

/-- A batch of official NFTs. -/
structure OfficialBatch where
  /-- The directory of the metadata. -/
  dir : String
  /-- The first index of the batch, as hexadecimal text. -/
  startIndex : String
  number : UInt64
  royalty : UInt32
  creator : String
deriving DecidableEq

namespace OfficialBatch

def fields :=
  Fields.cons (.required "dir" .string) <|
  .cons (.required "start_index" .string) <|
  .cons (.required "number" .uint64) <|
  .cons (.required "royalty" .uint32) <|
  .cons (.required "creator" .string) <|
  .nil

def codec : Codec OfficialBatch :=
  .record fields (fun b => (b.dir, b.startIndex, b.number, b.royalty, b.creator, ()))
    (fun (a, b, c, d, e, ()) => ⟨a, b, c, d, e⟩)

end OfficialBatch

end NftExchange

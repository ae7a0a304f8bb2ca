import Mathlib
import NftExchange.Chain.Account
import NftExchange.Chain.Mining
import NftExchange.Chain.OfficialBatch
import NftExchange.Chain.Receipt
import NftExchange.Proofs.Json.RoundTrip
import NftExchange.Proofs.Transaction.Reported

/-!
# Reports are read as they were written

A node reports receipts, accounts, validators, miners and transactions, each as a record. A record
survives one level above its fields, so what has to be looked at for each kind is its table: that no
two fields share a name, that a field which may be left out has its stand-in, and how many lists and
records stand inside one another.

* **`Receipt.roundTrips`** — a receipt survives if its logs are canonical, two levels below it;
* **`reports_roundTrip`** — the document of a report, of whatever kind, is decoded as the report.
-/

namespace NftExchange

open Codec

/-! ## Fields

Most fields of a report have a default and are written nevertheless, so a field comes back when its
value does. The kinds that several records share are given once, under any name. -/

section Fields

variable {name : String} {depth : Nat}

/-- A quantity that may be missing comes back in its field. -/
theorem roundTrips_quantityField (value : Option UInt256) :
    (Field.defaulted name (.nullable .quantity) none).RoundTrips depth value :=
  ⟨roundTrips_nullable_quantity _ value, nofun⟩

/-- So does an address or a digest that may be missing. -/
theorem roundTrips_fixedField {width : Nat} (value : Option (FixedBytes width)) :
    (Field.defaulted name (.nullable (fixedBytes width)) none).RoundTrips depth value :=
  ⟨roundTrips_nullable_fixedBytes _ value, nofun⟩

theorem roundTrips_textField (text : String) :
    (Field.defaulted name .string "").RoundTrips depth text :=
  ⟨roundTrips_string _ text, nofun⟩

theorem roundTrips_flagField (b : Bool) :
    (Field.defaulted name .bool false).RoundTrips depth b :=
  ⟨roundTrips_bool _ b, nofun⟩

end Fields

/-! ## Receipts and transactions

Each record is a table of fields, so its round trip is that of its fields, taken one after the
other. The entries of a receipt's log are values of any shape; they come back if they are written in
sorted order to begin with. -/

/-- A receipt comes back if the entries of its log do. -/
theorem Receipt.roundTrips {r : Receipt} {depth : Nat}
    (hlogs : ∀ log ∈ r.logs, log.Canonical depth) : codec.RoundTrips (depth + 2) r := by
  have hlist : (list json).RoundTrips (depth + 1) r.logs :=
    .list fun log hlog => roundTrips_json (hlogs log hlog)
  refine roundTrips_record (by decide) ?_ rfl
  -- field by field, in the order of the table
  exact ⟨⟨roundTrips_fixedBytes _ _, nofun⟩, roundTrips_quantityField _, roundTrips_fixedField _,
    roundTrips_quantityField _, roundTrips_fixedField _, roundTrips_fixedField _,
    roundTrips_quantityField _, roundTrips_quantityField _, roundTrips_fixedField _,
    roundTrips_quantityField _, ⟨hlist, nofun⟩, trivial⟩

/-- A reported transaction comes back, signed or not. -/
theorem ReportedTransaction.roundTrips (t : ReportedTransaction) (depth : Nat) :
    codec.RoundTrips (depth + 1) t where
  reads := (readsBack depth).reads t
  returns := returns t
  readable := readable t depth

/-! ## Accounts

An account reports its pledges and an NFT as records of their own, so that its round trip needs two
more levels of nesting. -/

/-- The pledge of an account comes back. -/
theorem PledgeState.roundTrips (p : PledgeState) (depth : Nat) : codec.RoundTrips (depth + 2) p := by
  have hlist : (list address).RoundTrips (depth + 1) p.approveAddressList :=
    .list fun a _ => roundTrips_fixedBytes _ a
  refine roundTrips_record (by decide) ?_ rfl
  exact ⟨roundTrips_quantityField _, roundTrips_quantityField _, roundTrips_flagField _,
    roundTrips_quantityField _, roundTrips_quantityField _, roundTrips_fixedField _,
    roundTrips_quantityField _, roundTrips_quantityField _, ⟨roundTrips_uint8 _ _, nofun⟩,
    ⟨roundTrips_uint16 _ _, nofun⟩, roundTrips_textField _, roundTrips_textField _,
    ⟨hlist, nofun⟩, roundTrips_flagField _, roundTrips_flagField _,
    ⟨roundTrips_uint64 _ _, nofun⟩, trivial⟩

/-- The NFT that an account is comes back. -/
theorem AccountNft.roundTrips (n : AccountNft) (depth : Nat) : codec.RoundTrips (depth + 1) n := by
  refine roundTrips_record (by decide) ?_ rfl
  exact ⟨roundTrips_textField _, roundTrips_textField _, roundTrips_quantityField _,
    ⟨roundTrips_uint8 _ _, nofun⟩, roundTrips_fixedField _, roundTrips_fixedField _,
    ⟨roundTrips_uint8 _ _, nofun⟩, roundTrips_fixedField _, ⟨roundTrips_uint32 _ _, nofun⟩,
    roundTrips_fixedField _, roundTrips_textField _, trivial⟩

/-- An account comes back, with both records in it. -/
theorem AccountInfo.roundTrips (a : AccountInfo) (depth : Nat) : codec.RoundTrips (depth + 3) a := by
  have hpledges : (PledgeState.codec.nullable).RoundTrips (depth + 2) a.pledges :=
    .nullable fun p _ => ⟨p.roundTrips depth, nofun⟩
  refine roundTrips_record (by decide) ?_ rfl
  exact ⟨⟨roundTrips_uint64 _ _, nofun⟩, roundTrips_quantityField _, roundTrips_fixedField _,
    ⟨hpledges, nofun⟩,
    ⟨a.nft.roundTrips (depth + 1), nofun⟩, trivial⟩

/-! ## Validators and miners

Lists of records add one level for the list and one for each record in it. -/

theorem Validator.roundTrips (v : Validator) (depth : Nat) : codec.RoundTrips (depth + 2) v := by
  have hweight : (list quantity).RoundTrips (depth + 1) v.weight :=
    .list fun a _ => roundTrips_quantity _ a
  refine roundTrips_record (by decide) ?_ rfl
  exact ⟨roundTrips_fixedField _, roundTrips_quantityField _, roundTrips_fixedField _,
    ⟨hweight, nofun⟩, trivial⟩

theorem ValidatorList.roundTrips (l : ValidatorList) (depth : Nat) :
    codec.RoundTrips (depth + 4) l := by
  have hlist : (list Validator.codec).RoundTrips (depth + 3) l.validators :=
    .list fun v _ => v.roundTrips depth
  exact roundTrips_record (by decide) ⟨⟨hlist, nofun⟩, trivial⟩ rfl

theorem Beneficiary.roundTrips (b : Beneficiary) (depth : Nat) : codec.RoundTrips (depth + 1) b :=
  roundTrips_record (by decide)
    ⟨⟨roundTrips_fixedBytes _ _, nofun⟩, ⟨roundTrips_fixedBytes _ _, nofun⟩, trivial⟩ rfl

theorem ActiveMiner.roundTrips (m : ActiveMiner) (depth : Nat) : codec.RoundTrips (depth + 1) m :=
  roundTrips_record (by decide)
    ⟨⟨roundTrips_fixedBytes _ _, nofun⟩, ⟨roundTrips_nullable_quantity _ _, nofun⟩,
      ⟨roundTrips_uint64 _ _, nofun⟩, trivial⟩ rfl

theorem ActiveMinerList.roundTrips (l : ActiveMinerList) (depth : Nat) :
    codec.RoundTrips (depth + 3) l := by
  have hlist : (list ActiveMiner.codec).RoundTrips (depth + 2) l.activeMiners :=
    .list fun m _ => m.roundTrips depth
  exact roundTrips_record (by decide) ⟨⟨hlist, nofun⟩, trivial⟩ rfl

theorem MinerProxy.roundTrips (m : MinerProxy) (depth : Nat) : codec.RoundTrips (depth + 1) m :=
  roundTrips_record (by decide)
    ⟨⟨roundTrips_fixedBytes _ _, nofun⟩, ⟨roundTrips_fixedBytes _ _, nofun⟩, trivial⟩ rfl

theorem OfficialBatch.roundTrips (b : OfficialBatch) (depth : Nat) :
    codec.RoundTrips (depth + 1) b :=
  roundTrips_record (by decide)
    ⟨⟨roundTrips_string _ _, nofun⟩, ⟨roundTrips_string _ _, nofun⟩,
      ⟨roundTrips_uint64 _ _, nofun⟩, ⟨roundTrips_uint32 _ _, nofun⟩,
      ⟨roundTrips_string _ _, nofun⟩, trivial⟩ rfl

/-! ## All reports

A document may be nested 127 levels deep, and no record needs more than a few of them, so all of the
records come back from a document of their own. -/

/-- What a node reports is decoded as what was reported, straight from the text and through a value:
receipts with any canonical logs, which stand two levels inside, accounts, validators, recipients of
rewards, active miners, proxies, transactions and official batches. -/
theorem reports_roundTrip :
    (∀ r : Receipt, (∀ log ∈ r.logs, log.Canonical (Json.depthLimit - 2)) →
        Receipt.codec.Decodes (Receipt.codec.render r) (.ok r))
      ∧ (∀ a : AccountInfo, AccountInfo.codec.Decodes (AccountInfo.codec.render a) (.ok a))
      ∧ (∀ l : ValidatorList, ValidatorList.codec.Decodes (ValidatorList.codec.render l) (.ok l))
      ∧ (∀ bs : List Beneficiary,
        (list Beneficiary.codec).Decodes ((list Beneficiary.codec).render bs) (.ok bs))
      ∧ (∀ l : ActiveMinerList,
        ActiveMinerList.codec.Decodes (ActiveMinerList.codec.render l) (.ok l))
      ∧ (∀ ms : List MinerProxy,
        (list MinerProxy.codec).Decodes ((list MinerProxy.codec).render ms) (.ok ms))
      ∧ (∀ t : ReportedTransaction,
        ReportedTransaction.codec.Decodes (ReportedTransaction.codec.render t) (.ok t))
      ∧ ∀ b : OfficialBatch, OfficialBatch.codec.Decodes (OfficialBatch.codec.render b) (.ok b) := by
  refine ⟨fun r hlogs => (Receipt.roundTrips hlogs).decodes, fun a => (a.roundTrips 124).decodes,
    fun l => (l.roundTrips 123).decodes, fun bs => ?_, fun l => (l.roundTrips 124).decodes,
    fun ms => ?_, fun t => (t.roundTrips 126).decodes, fun b => (b.roundTrips 126).decodes⟩
  · have hlist : (list Beneficiary.codec).RoundTrips (125 + 1 + 1) bs :=
      .list fun b _ => b.roundTrips 125
    exact hlist.decodes
  · have hlist : (list MinerProxy.codec).RoundTrips (125 + 1 + 1) ms :=
      .list fun m _ => m.roundTrips 125
    exact hlist.decodes

/-- The receipt of a transfer with a log that has the least and the greatest of its numbers. -/
def Receipt.loggedTransfer : Receipt where
  transactionHash := .ofNat 32 0x2a
  transactionIndex := some 0
  blockHash := none
  blockNumber := some 0x678
  sender := some (.ofNat 20 0x0a)
  recipient := none
  cumulativeGasUsed := none
  gasUsed := some 21000
  contractAddress := none
  status := some 1
  logs := [.obj [
    ("data", .arr [.num (.ofInt (-9223372036854775808)), .num (.ofInt 18446744073709551615)]),
    ("removed", .bool false)]]

/-- The log of the example is written in sorted order. -/
theorem Receipt.canonical_loggedTransfer :
    ∀ log ∈ loggedTransfer.logs, log.Canonical (Json.depthLimit - 2) := by
  refine List.forall_mem_singleton.2 ⟨by decide, ?_⟩
  rw [List.forall_mem_cons, List.forall_mem_singleton]
  refine ⟨⟨by decide, ?_⟩, by decide, trivial⟩
  refine List.forall_mem_cons.2 ⟨⟨-9223372036854775808, by decide, by decide, rfl⟩, ?_⟩
  exact List.forall_mem_singleton.2 ⟨18446744073709551615, by decide, by decide, rfl⟩

/-- The receipt of the example comes back with its log. -/
theorem reports_roundTrip_loggedTransfer :
    (∀ log ∈ Receipt.loggedTransfer.logs, log.Canonical (Json.depthLimit - 2))
      ∧ Receipt.codec.Decodes (Receipt.codec.render .loggedTransfer) (.ok .loggedTransfer) :=
  ⟨Receipt.canonical_loggedTransfer,
    reports_roundTrip.1 _ Receipt.canonical_loggedTransfer⟩

end NftExchange

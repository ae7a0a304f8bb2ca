import Mathlib
import NftExchange.Client.Config
import NftExchange.Proofs.Except
import NftExchange.Proofs.Text.Trimmed
import NftExchange.Proofs.Toml.Listing

/-!
# Loading a configuration

A configuration is loaded from named variables or from a document. In both it may be left out that a
field has its default. What is said of a field is then its value, or nothing if that is the default
(`Supplies`), and the two loaders are compared through this alone.

* **`validate_eq_ok_iff`** — the checks of a configuration, one by one;
* **`ofLookup_eq_ok_iff`** and **`ofToml_eq_ok_iff`** — what each loader returns;
* **`HoldsNumber.reads_variable`**, **`Lists.reads_number`** — what is said of a number is read;
* **`loads`** — from whichever source a configuration is loaded, it is the same, and it is valid.
-/

namespace NftExchange

/-! ## Texts

What the two sources have in common: blanks around a value do not count, and numbers are written in
digits. These are the facts about texts that both readers of a configuration lean on. -/

/-- A lead can be dropped exactly from the texts that start with it. -/
theorem Text.isNone_dropLead?_eq_false_iff {lead text : String} :
    (dropLead? lead text).isNone = false ↔ ∃ rest, text = lead ++ rest := by
  rw [Option.isNone_eq_false_iff, Option.isSome_iff_exists]
  exact exists_congr fun rest => dropLead?_eq_some_iff

/-- A text is not all blank if one of its characters is none. -/
theorem Text.isEmpty_trimmed_eq_false {text : String} {c : Char} (hmem : c ∈ text.toList)
    (hc : isBlank c = false) : (trimmed text).isEmpty = false := by
  by_contra hempty
  have hcore : trimmed text = "" := by simpa using hempty
  obtain ⟨front, back, htext, hfront, hback⟩ := surrounds_trimmed text
  rw [htext, hcore, String.append_empty, String.toList_append, List.mem_append] at hmem
  have hblank := hmem.elim (hfront c) (hback c)
  rw [hc] at hblank
  cases hblank

/-- No digit is a blank. -/
theorem Text.isTight_toString (n : Nat) : IsTight (toString n) := by
  have hblank : ∀ c ∈ (toString n).toList, isBlank c = false := by
    intro c hc
    rw [Nat.toString_eq_ofList_toDigits, String.toList_ofList] at hc
    have hdigit := Toml.isDigit_of_mem_toDigits n c hc
    -- a decimal digit has a code between 48 and 57, where no blank is
    have hrange : 48 ≤ c.toNat ∧ c.toNat ≤ 57 := by
      simpa [Char.isDigit, UInt32.le_iff_toNat_le] using hdigit
    simp only [isBlank, Bool.or_eq_false_iff, Bool.and_eq_false_iff, beq_eq_false_iff_ne,
      decide_eq_false_iff_not]
    omega
  exact ⟨fun c hc => hblank c (List.mem_of_mem_head? hc),
    fun c hc => hblank c (List.mem_of_getLast? hc)⟩

/-- A number is read back from its decimal text. -/
theorem Decimal.parseSigned?_toString (n : Nat) :
    parseSigned? (Bytes.ofText (toString n)) = some n := by
  show parseSigned? (ofNat n) = some n
  have hdigits := isDigit_of_mem_ofNat n
  have hread : parse? (ofNat n) = some n := by
    rw [parse?, if_pos (List.all_eq_true.2 hdigits), toNat_ofNat]
  have hempty : (ofNat n).isEmpty = false := by simpa using ofNat_ne_nil n
  -- the text begins with a digit, so there is no sign to be split off
  unfold parseSigned?
  split
  · next rest heq =>
    have hplus : isDigit 0x2b = true := hdigits _ (by rw [heq]; exact List.mem_cons_self)
    cases hplus
  · simp only [hempty, hread, Bool.false_eq_true, if_false]

namespace ClientConfig

/-! ## The checks

A configuration is checked field by field, and the first field that will not do is reported.
Together the checks are a plain condition on the fields, `Usable`. -/

/-- What is checked of a configuration. -/
structure Usable (c : ClientConfig) : Prop where
  endpoint : (∃ rest, c.endpoint = "http://" ++ rest) ∨ ∃ rest, c.endpoint = "https://" ++ rest
  requestTimeoutMs : c.requestTimeoutMs ≠ 0
  gasLimit : 21000 ≤ c.gasLimit
  deadlineOffset : c.deadlineOffset ≠ 0
  chainId : c.chainId ≠ some 0
  payloadVersion : c.payloadVersion ≠ ""

/-- A web address is not all blank, so the first check adds nothing to the second. -/
theorem Usable.isEmpty_trimmed {c : ClientConfig} (h : c.Usable) :
    (Text.trimmed c.endpoint).isEmpty = false := by
  refine Text.isEmpty_trimmed_eq_false (c := 'h') ?_ (by decide)
  rcases h.endpoint with ⟨rest, hrest⟩ | ⟨rest, hrest⟩ <;> simp [hrest]

/-- The checks let exactly the usable configurations pass. -/
theorem validate_eq_ok_iff {c : ClientConfig} : c.validate = .ok () ↔ c.Usable := by
  constructor
  · intro h
    -- each check that was passed is one of the conditions
    unfold validate at h
    split_ifs at h with hblank hendpoint htimeout hgas hoffset hchain hversion
    refine ⟨?_, htimeout, ?_, hoffset, hchain, ?_⟩
    · rw [Bool.and_eq_true, not_and_or, Bool.not_eq_true, Bool.not_eq_true] at hendpoint
      exact hendpoint.imp Text.isNone_dropLead?_eq_false_iff.1
        Text.isNone_dropLead?_eq_false_iff.1
    · exact UInt64.not_lt.1 hgas
    · simpa using hversion
  · intro h
    have hendpoint : ((Text.dropLead? "http://" c.endpoint).isNone
        && (Text.dropLead? "https://" c.endpoint).isNone) = false := by
      rw [Bool.and_eq_false_iff]
      exact h.endpoint.imp Text.isNone_dropLead?_eq_false_iff.2
        Text.isNone_dropLead?_eq_false_iff.2
    have hgas : ¬ c.gasLimit < leastGas := UInt64.not_lt.2 h.gasLimit
    have hversion : c.payloadVersion.isEmpty = false := by simpa using h.payloadVersion
    simp only [validate, h.isEmpty_trimmed, hendpoint, h.requestTimeoutMs, hgas, h.deadlineOffset,
      h.chainId, hversion, Bool.false_eq_true, if_false]

/-- A loader returns what it has put together, and only if it passes the checks. -/
theorem validated_eq_ok_iff {c loaded : ClientConfig} :
    validated c = .ok loaded ↔ c = loaded ∧ loaded.validate = .ok () := by
  rw [validated, Except.bind_eq_ok_iff]
  constructor
  · rintro ⟨⟨⟩, hvalid, h⟩
    cases h
    exact ⟨rfl, hvalid⟩
  · rintro ⟨rfl, hvalid⟩
    exact ⟨(), hvalid, rfl⟩

/-! ## The loaders

Both loaders read their fields one after the other, fill in the defaults and check the result. So a
configuration that is loaded says what each of the fields was read as. -/

variable {c : ClientConfig} {lookup : String → Option String} {document : String}
  {listed : Toml.Entries}

/-- What is loaded from variables: each variable can be read, and the checks are passed. -/
theorem ofLookup_eq_ok_iff :
    ofLookup lookup = .ok c ↔ ∃ timeout chainId gasLimit offset,
      numberVariable? lookup "EX_RPC_TIMEOUT_MS" = .ok timeout
        ∧ numberVariable? lookup "EX_CHAIN_ID" = .ok chainId
        ∧ numberVariable? lookup "EX_GAS_LIMIT" = .ok gasLimit
        ∧ numberVariable? lookup "EX_DEADLINE_OFFSET" = .ok offset
        ∧ c = {
          endpoint := (lookup "EX_RPC_ENDPOINT").getD ""
          requestTimeoutMs := timeout.getD 30000
          chainId := chainId
          gasLimit := gasLimit.getD 500000
          deadlineOffset := offset.getD 10 }
        ∧ c.validate = .ok () := by
  simp only [ofLookup, Except.bind_eq_ok_iff, validated_eq_ok_iff]
  constructor
  · rintro ⟨timeout, htimeout, chainId, hchain, gasLimit, hgas, offset, hoffset, rfl, hvalid⟩
    exact ⟨timeout, chainId, gasLimit, offset, htimeout, hchain, hgas, hoffset, rfl, hvalid⟩
  · rintro ⟨timeout, chainId, gasLimit, offset, htimeout, hchain, hgas, hoffset, rfl, hvalid⟩
    exact ⟨timeout, htimeout, chainId, hchain, gasLimit, hgas, offset, hoffset, rfl, hvalid⟩

/-- What is loaded from a document: it can be parsed, each entry can be read, and the checks are
passed. -/
theorem ofToml_eq_ok_iff :
    ofToml document = .ok c ↔ ∃ entries endpoint timeout chainId gasLimit offset version,
      Toml.parse? document = some entries
        ∧ textEntry? entries "endpoint" = .ok endpoint
        ∧ numberEntry? entries "request_timeout_ms" = .ok timeout
        ∧ numberEntry? entries "chain_id" = .ok chainId
        ∧ numberEntry? entries "gas_limit" = .ok gasLimit
        ∧ numberEntry? entries "deadline_offset" = .ok offset
        ∧ textEntry? entries "payload_version" = .ok version
        ∧ c = {
          endpoint := endpoint.getD ""
          requestTimeoutMs := timeout.getD 30000
          chainId := chainId
          gasLimit := gasLimit.getD 500000
          deadlineOffset := offset.getD 10
          payloadVersion := version.getD "v0.0.1" }
        ∧ c.validate = .ok () := by
  -- entry by entry, in the order in which they are read
  rw [ofToml]
  cases hparse : Toml.parse? document with
  | none => exact ⟨nofun, fun ⟨_, _, _, _, _, _, _, h, _⟩ => nomatch h⟩
  | some entries =>
    simp only [Except.bind_eq_ok_iff, validated_eq_ok_iff]
    constructor
    · rintro ⟨endpoint, hendpoint, timeout, htimeout, chainId, hchain, gasLimit, hgas, offset,
        hoffset, version, hversion, rfl, hvalid⟩
      exact ⟨entries, endpoint, timeout, chainId, gasLimit, offset, version, rfl, hendpoint,
        htimeout, hchain, hgas, hoffset, hversion, rfl, hvalid⟩
    · rintro ⟨_, endpoint, timeout, chainId, gasLimit, offset, version, ⟨⟩, hendpoint, htimeout,
        hchain, hgas, hoffset, hversion, rfl, hvalid⟩
      exact ⟨endpoint, hendpoint, timeout, htimeout, chainId, hchain, gasLimit, hgas, offset,
        hoffset, version, hversion, rfl, hvalid⟩

/-! ## What is said of a field

A source may say nothing of a field whose value is the default. What the loader fills in is then the
value all the same, which is why both sources agree whatever they leave out. -/

/-- What is said of a field: its value, or nothing if that is the default. -/
def Supplies {α : Type} (said value default : Option α) : Prop :=
  said = value ∨ (said = none ∧ value = default)

/-- What is said, with the default filled in, is the value. -/
theorem Supplies.getD_eq {α : Type} {said : Option α} {a d : α}
    (h : Supplies said (some a) (some d)) : said.getD d = a := by
  rcases h with rfl | ⟨rfl, h⟩
  · rfl
  · exact (Option.some.inj h).symm

/-- Where there is no default, what is said is the value. -/
theorem Supplies.eq_of_none {α : Type} {said value : Option α} (h : Supplies said value none) :
    said = value := by
  rcases h with rfl | ⟨rfl, rfl⟩ <;> rfl

/-! ## Variables

Variables hold numbers as decimal texts, with blanks around them or not. -/

/-- A variable holds a number in decimal, with blanks around it; it may be unset if that is the
default. -/
def HoldsNumber (held : Option String) (value default : Option UInt64) : Prop :=
  match held with
  | some raw => ∃ n, value = some n ∧ Text.Surrounds raw (toString n.toNat)
  | none => value = default

/-- The variables hold a configuration. -/
structure Held (c : ClientConfig) (lookup : String → Option String) : Prop where
  endpoint : lookup "EX_RPC_ENDPOINT" = some c.endpoint
  requestTimeoutMs : HoldsNumber (lookup "EX_RPC_TIMEOUT_MS") (some c.requestTimeoutMs) (some 30000)
  chainId : HoldsNumber (lookup "EX_CHAIN_ID") c.chainId none
  gasLimit : HoldsNumber (lookup "EX_GAS_LIMIT") (some c.gasLimit) (some 500000)
  deadlineOffset : HoldsNumber (lookup "EX_DEADLINE_OFFSET") (some c.deadlineOffset) (some 10)

/-- A variable that holds a number supplies it. -/
theorem HoldsNumber.reads_variable {name : String} {value default : Option UInt64}
    (h : HoldsNumber (lookup name) value default) :
    ∃ said, numberVariable? lookup name = .ok said ∧ Supplies said value default := by
  rw [numberVariable?]
  cases hvariable : lookup name with
  | none =>
    rw [hvariable] at h
    exact ⟨none, rfl, .inr ⟨rfl, h⟩⟩
  | some raw =>
    rw [hvariable] at h
    obtain ⟨n, rfl, hraw⟩ := h
    -- the blanks go, and what is left is the number in digits
    have hread : (Decimal.parseSigned? (Bytes.ofText (Text.trimmed raw))).bind UInt64.ofNat?
        = some n := by
      rw [Text.trimmed_eq_of_surrounds hraw (Text.isTight_toString _),
        Decimal.parseSigned?_toString, Option.bind_some, UInt64.ofNat?_toNat]
    exact ⟨some n, by simp only [hread], .inl rfl⟩

/-! ## Entries

A document lists entries, in any order, and may leave out those of the default configuration. An
entry that is looked up is then either found with its value or has its default. -/

/-- The entries of a configuration, without those that are unset. -/
def entries (c : ClientConfig) : Toml.Entries :=
  [("endpoint", .string c.endpoint), ("request_timeout_ms", .integer c.requestTimeoutMs.toNat)]
    ++ (c.chainId.map fun n => ("chain_id", Toml.integer n.toNat)).toList
    ++ [("gas_limit", .integer c.gasLimit.toNat),
      ("deadline_offset", .integer c.deadlineOffset.toNat),
      ("payload_version", .string c.payloadVersion)]

/-- These entries of a configuration are listed, in any order; only defaults are left out. -/
structure Lists (c : ClientConfig) (listed : Toml.Entries) : Prop where
  nodup : (listed.map Prod.fst).Nodup
  mem_entries : ∀ entry ∈ listed, entry ∈ c.entries
  mem_defaults : ∀ entry ∈ c.entries, entry ∉ listed → entry ∈ ({} : ClientConfig).entries

/-- A listed entry is that of the configuration, and one that is not is a default. -/
theorem Lists.get?_cases (h : c.Lists listed) (name : String) :
    (∃ v, listed.get? name = some v ∧ (name, v) ∈ c.entries)
      ∨ (listed.get? name = none
        ∧ ∀ v, (name, v) ∈ c.entries → (name, v) ∈ ({} : ClientConfig).entries) := by
  cases hget : listed.get? name with
  | some v =>
    obtain ⟨before, after, hlisted, -⟩ := List.lookup_eq_some_iff.1 hget
    exact .inl ⟨v, rfl, h.mem_entries _ (by simp [hlisted])⟩
  | none =>
    refine .inr ⟨rfl, fun v hv => h.mem_defaults _ hv fun hmem => ?_⟩
    simpa using List.lookup_eq_none_iff.1 hget _ hmem

/-- The entry of a number supplies it. -/
theorem Lists.reads_number (h : c.Lists listed) (name : String)
    (value : ClientConfig → Option UInt64)
    (hentries : ∀ c v, (name, v) ∈ entries c ↔ ∃ n, value c = some n ∧ .integer n.toNat = v) :
    ∃ said, numberEntry? listed name = .ok said ∧ Supplies said (value c) (value {}) := by
  unfold numberEntry?
  rcases h.get?_cases name with ⟨v, hget, hmem⟩ | ⟨hget, hdefault⟩
  · obtain ⟨n, hn, rfl⟩ := (hentries c v).1 hmem
    refine ⟨some n, ?_, .inl hn.symm⟩
    rw [hget]
    show Except.ok (some (UInt64.ofNat n.toNat)) = _
    rw [UInt64.ofNat_toNat]
  · refine ⟨none, by rw [hget], ?_⟩
    cases hvalue : value c with
    | none => exact .inl rfl
    | some n =>
      -- the entry that is left out is one of the default configuration
      obtain ⟨m, hm, heq⟩ := (hentries {} _).1 (hdefault _ ((hentries c _).2 ⟨n, hvalue, rfl⟩))
      have hnm : n.toNat = m.toNat := Int.ofNat_inj.1 (Toml.integer.inj heq).symm
      exact .inr ⟨rfl, by rw [hm, UInt64.toNat_inj.1 hnm]⟩

/-- The entry of a text supplies it. -/
theorem Lists.reads_text (h : c.Lists listed) (name : String) (value : ClientConfig → String)
    (hentries : ∀ c v, (name, v) ∈ entries c ↔ .string (value c) = v) :
    ∃ said, textEntry? listed name = .ok said
      ∧ Supplies said (some (value c)) (some (value {})) := by
  unfold textEntry?
  rcases h.get?_cases name with ⟨v, hget, hmem⟩ | ⟨hget, hdefault⟩
  · obtain rfl := (hentries c v).1 hmem
    exact ⟨some (value c), by rw [hget], .inl rfl⟩
  · have heq := (hentries {} _).1 (hdefault _ ((hentries c _).2 rfl))
    exact ⟨none, by rw [hget], .inr ⟨rfl, congrArg some (Toml.string.inj heq).symm⟩⟩

/-! ## Both loaders

A configuration that variables hold and a document lists is loaded from either. -/

/-- The configuration can be listed in a document without escapes: its endpoint has no backslash
and no control character, and its numbers fit in 64 bits with sign. -/
structure IsPlain (c : ClientConfig) : Prop where
  endpoint : ∀ ch ∈ c.endpoint.toList, 0x20 ≤ ch.toNat ∧ ch.toNat ≠ 0x7f ∧ ch ≠ '\\'
  requestTimeoutMs : c.requestTimeoutMs.toNat ≤ 2 ^ 63 - 1
  chainId : ∀ n ∈ c.chainId, n.toNat ≤ 2 ^ 63 - 1
  gasLimit : c.gasLimit.toNat ≤ 2 ^ 63 - 1
  deadlineOffset : c.deadlineOffset.toNat ≤ 2 ^ 63 - 1

/-- A valid configuration is loaded from the variables that hold it. -/
theorem ofLookup_of_held (hvalid : c.validate = .ok ()) (hversion : c.payloadVersion = "v0.0.1")
    (hheld : c.Held lookup) : ofLookup lookup = .ok c := by
  obtain ⟨timeout, htimeout, hsaysTimeout⟩ := hheld.requestTimeoutMs.reads_variable
  obtain ⟨chainId, hchain, hsaysChain⟩ := hheld.chainId.reads_variable
  obtain ⟨gasLimit, hgas, hsaysGas⟩ := hheld.gasLimit.reads_variable
  obtain ⟨offset, hoffset, hsaysOffset⟩ := hheld.deadlineOffset.reads_variable
  refine ofLookup_eq_ok_iff.2
    ⟨timeout, chainId, gasLimit, offset, htimeout, hchain, hgas, hoffset, ?_, hvalid⟩
  rw [hheld.endpoint, hsaysTimeout.getD_eq, hsaysChain.eq_of_none, hsaysGas.getD_eq,
    hsaysOffset.getD_eq, Option.getD_some, ← hversion]

/-- The entries of a configuration can be written in a document: their names are bare and their
values plain. -/
theorem readable_of_lists (hplain : c.IsPlain) (hversion : c.payloadVersion = "v0.0.1")
    (hlists : c.Lists listed) : Toml.Readable listed := by
  intro entry hentry
  have hmem := hlists.mem_entries entry hentry
  simp only [entries, List.mem_append, List.mem_cons, List.not_mem_nil, or_false,
    Option.mem_toList, Option.map_eq_some_iff] at hmem
  have hname {name : String} {v : Toml} (hne : name.toList ≠ [])
      (hchars : name.toList.all Toml.isNameChar = true) (hv : v.IsPlain) :
      Toml.IsReadable (name, v) := ⟨⟨hne, List.all_eq_true.1 hchars⟩, hv⟩
  -- one entry for each field
  rcases hmem with ((rfl | rfl) | ⟨n, hn, rfl⟩) | rfl | rfl | rfl
  · exact hname (by decide) (by decide) hplain.endpoint
  · exact hname (by decide) (by decide) (Int.ofNat_le.2 hplain.requestTimeoutMs)
  · exact hname (by decide) (by decide) (Int.ofNat_le.2 (hplain.chainId n hn))
  · exact hname (by decide) (by decide) (Int.ofNat_le.2 hplain.gasLimit)
  · exact hname (by decide) (by decide) (Int.ofNat_le.2 hplain.deadlineOffset)
  · rw [hversion]
    have hplain : (Toml.string "v0.0.1").IsPlain := by simp [Toml.IsPlain]
    exact hname (by decide) (by decide) hplain

/-- A valid configuration is loaded from any document that lists it. -/
theorem ofToml_of_lists (hvalid : c.validate = .ok ()) (hversion : c.payloadVersion = "v0.0.1")
    (hplain : c.IsPlain) (hlists : c.Lists listed)
    (hdocument : Toml.Listing listed document.toList) : ofToml document = .ok c := by
  have hparse := hdocument.parse?_eq (readable_of_lists hplain hversion hlists) hlists.nodup
  -- what each entry supplies, in the order in which the loader reads them
  obtain ⟨endpoint, hendpoint, hsaysEndpoint⟩ :=
    hlists.reads_text "endpoint" endpoint (by simp [entries, eq_comm])
  obtain ⟨timeout, htimeout, hsaysTimeout⟩ :=
    hlists.reads_number "request_timeout_ms" (fun c => some c.requestTimeoutMs)
      (by simp [entries, eq_comm])
  obtain ⟨chainId, hchain, hsaysChain⟩ :=
    hlists.reads_number "chain_id" chainId (by simp [entries])
  obtain ⟨gasLimit, hgas, hsaysGas⟩ :=
    hlists.reads_number "gas_limit" (fun c => some c.gasLimit) (by simp [entries, eq_comm])
  obtain ⟨offset, hoffset, hsaysOffset⟩ :=
    hlists.reads_number "deadline_offset" (fun c => some c.deadlineOffset)
      (by simp [entries, eq_comm])
  obtain ⟨version, hread, hsaysVersion⟩ :=
    hlists.reads_text "payload_version" payloadVersion (by simp [entries, eq_comm])
  refine ofToml_eq_ok_iff.2 ⟨listed, endpoint, timeout, chainId, gasLimit, offset, version, hparse,
    hendpoint, htimeout, hchain, hgas, hoffset, hread, ?_, hvalid⟩
  rw [hsaysEndpoint.getD_eq, hsaysTimeout.getD_eq, hsaysChain.eq_of_none, hsaysGas.getD_eq,
    hsaysOffset.getD_eq, hsaysVersion.getD_eq]

/-- Loading agrees and is safe. Variables that hold a valid configuration and a document that lists
it give the configuration back, where a text is listed in quotes that it does not contain. And
whatever the variables and whatever the document, a configuration that is returned is valid: it has
a web address, and none of its numbers is one that cannot be used. -/
theorem loads :
    (∀ (c : ClientConfig) (lookup : String → Option String) (document : String)
        (listed : Toml.Entries), c.validate = .ok () → c.payloadVersion = "v0.0.1" → c.IsPlain →
        c.Held lookup → c.Lists listed → Toml.Listing listed document.toList →
        ofLookup lookup = .ok c ∧ ofToml document = .ok c)
      ∧ (∀ (lookup : String → Option String) (c : ClientConfig), ofLookup lookup = .ok c →
        c.validate = .ok ())
      ∧ (∀ (document : String) (c : ClientConfig), ofToml document = .ok c → c.validate = .ok ())
      ∧ ∀ c : ClientConfig, c.validate = .ok () ↔ c.Usable := by
  refine ⟨fun c lookup document listed hvalid hversion hplain hheld hlists hdocument => ?_,
    fun lookup c h => ?_, fun document c h => ?_, fun c => validate_eq_ok_iff⟩
  · exact ⟨ofLookup_of_held hvalid hversion hheld,
      ofToml_of_lists hvalid hversion hplain hlists hdocument⟩
  · obtain ⟨-, -, -, -, -, -, -, -, -, hvalid⟩ := ofLookup_eq_ok_iff.1 h
    exact hvalid
  · obtain ⟨-, -, -, -, -, -, -, -, -, -, -, -, -, -, -, hvalid⟩ := ofToml_eq_ok_iff.1 h
    exact hvalid

/-- A client of a local node, with a chain and a gas limit of its own. -/
def localNode : ClientConfig where
  endpoint := "http://127.0.0.1:8545"
  chainId := some 51888
  gasLimit := 100000

/-- Variables for it; the gas limit has blanks around it. -/
def localVariables : String → Option String
  | "EX_RPC_ENDPOINT" => some "http://127.0.0.1:8545"
  | "EX_CHAIN_ID" => some "51888"
  | "EX_GAS_LIMIT" => some " 100000\n"
  | _ => none

/-- A document for it, with both line ends and none behind the last line. -/
def localDocument : String :=
  "# local\r\n  gas_limit = 100000\t# enough\nchain_id=51888\nendpoint = 'http://127.0.0.1:8545'"

/-- What the document lists. -/
def localEntries : Toml.Entries :=
  [("gas_limit", .integer 100000), ("chain_id", .integer 51888),
    ("endpoint", .string "http://127.0.0.1:8545")]

theorem held_localNode : localNode.Held localVariables where
  endpoint := rfl
  requestTimeoutMs := rfl
  chainId := ⟨51888, rfl, "", "", by decide, nofun, nofun⟩
  gasLimit := ⟨100000, rfl, " ", "\n", by decide, by simp [Text.isBlank], by simp [Text.isBlank]⟩
  deadlineOffset := rfl

theorem lists_localNode : localNode.Lists localEntries where
  nodup := by decide
  mem_entries := by simp [localEntries, entries, localNode]
  mem_defaults := by simp [localEntries, entries, localNode]

/-- The document of the example is a way to write these entries, with comments and line ends of both
kinds. -/
theorem listing_localEntries : Toml.Listing localEntries localDocument.toList := by
  -- the four lines one by one: a comment, two numbers and a text in single quotes
  have hcomment : Toml.LineText none ([] ++ '#' :: " local".toList) :=
    .empty (List.forall_mem_nil _) (.comment (by simp))
  have hgas : Toml.LineText (some ("gas_limit", .integer 100000))
      ([' ', ' '] ++ (("gas_limit".toList ++ ([' '] ++ '=' :: ([' '] ++ Nat.toDigits 10 100000)))
        ++ (['\t'] ++ '#' :: " enough".toList))) :=
    .entry (by simp [Toml.IsBlanks])
      (.intro (by simp [Toml.IsBlanks]) (by simp [Toml.IsBlanks]) (.number 100000))
      (by simp [Toml.IsBlanks]) (.comment (by simp))
  have hchain : Toml.LineText (some ("chain_id", .integer 51888))
      ([] ++ (("chain_id".toList ++ ([] ++ '=' :: ([] ++ Nat.toDigits 10 51888))) ++ ([] ++ []))) :=
    .entry (List.forall_mem_nil _)
      (.intro (List.forall_mem_nil _) (List.forall_mem_nil _) (.number 51888))
      (List.forall_mem_nil _) .none
  have hendpoint : Toml.LineText (some ("endpoint", .string "http://127.0.0.1:8545"))
      ([] ++ (("endpoint".toList ++ ([' '] ++ '=' :: ([' ']
        ++ (['\''] ++ ("http://127.0.0.1:8545".toList ++ ['\'']))))) ++ ([] ++ []))) :=
    .entry (List.forall_mem_nil _)
      (.intro (by simp [Toml.IsBlanks]) (by simp [Toml.IsBlanks]) (.text .literal (by simp)))
      (List.forall_mem_nil _) .none
  have hlisting := Toml.Listing.line hcomment .both
    (.line hgas .feed (.line hchain .feed (.last hendpoint (by simp))))
  exact hlisting

/-- Both sources of the example give the same configuration, which is valid. -/
theorem loads_localNode :
    localNode.Held localVariables ∧ localNode.Lists localEntries
      ∧ Toml.Listing localEntries localDocument.toList ∧ ofLookup localVariables = .ok localNode
      ∧ ofToml localDocument = .ok localNode ∧ localNode.validate = .ok () ∧ localNode.Usable := by
  obtain ⟨hagree, hlookup, htoml, husable⟩ := loads
  -- the example is valid, so both loaders have to return it
  have hvalid : localNode.validate = .ok () :=
    (husable localNode).2 ⟨.inl ⟨"127.0.0.1:8545", by decide⟩, by decide, by decide, by decide,
      by decide, by decide⟩
  have hplain : localNode.IsPlain :=
    ⟨by simp [localNode], by decide, by simp [localNode], by decide, by decide⟩
  have hloaded := hagree localNode localVariables localDocument localEntries hvalid rfl hplain
    held_localNode lists_localNode listing_localEntries
  exact ⟨held_localNode, lists_localNode, listing_localEntries, hloaded.1, hloaded.2,
    hlookup localVariables localNode hloaded.1,
    (husable localNode).1 (htoml localDocument localNode hloaded.2)⟩

end ClientConfig

end NftExchange

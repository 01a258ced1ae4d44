import AutomationPrice.Types

/-! The asset and price registry: `create_new_asset`, `initialize_asset`,
`update_asset_prices` and `delete_asset`. The price loop ranges over `prices` and indexes the
other vectors by position, so it is modelled with the index it carries; `priceBatch` and
`applyPriceBatch` say what a batch of equal-length vectors means, and
`updateAssetPrices_batch` shows the loop computes it. -/

namespace AutomationPrice

/-- `create_new_asset`. -/
def createNewAsset (chain : ChainName) (exchange : Exchange) (asset1 asset2 : AssetName)
    (decimal : UInt8) (assetOwners : List AccountId) (s : State) : Outcome × State :=
  let key : AssetKey := ⟨chain, exchange, asset1, asset2⟩
  if (s.assetRegistry key).isSome then (.err (.module .assetAlreadyInitialized), s)
  else
    let assetInfo : RegistryInfo :=
      { decimal, round := 0, lastUpdate := 0, oracleProviders := assetOwners }
    (.ok, State.depositEvent { s with assetRegistry := Function.update s.assetRegistry key (some assetInfo) }
      (.assetCreated chain exchange asset1 asset2 decimal))

/-- `initialize_asset`. -/
def initializeAsset (origin : Origin) (chain : ChainName) (exchange : Exchange)
    (asset1 asset2 : AssetName) (decimal : UInt8) (assetOwners : List AccountId) :
    State → Outcome × State :=
  transactional fun s =>
    match ensureRoot origin with
    | .error e => (.err e, s)
    | .ok () => createNewAsset chain exchange asset1 asset2 decimal assetOwners s

/-- The loop of `update_asset_prices` from position `index` on, over the remaining `prices`.
The other vectors are indexed by position, which panics past their end. -/
def updateAssetPricesLoop (who : AccountId) (chains : List ChainName) (exchanges : List Exchange)
    (assets1 assets2 : List AssetName) (rounds : List Nat) :
    Nat → List Nat → State → Outcome × State
  | _, [], s => (.ok, s)
  | index, price :: prices, s =>
    match chains[index]?, exchanges[index]?, assets1[index]?, assets2[index]?, rounds[index]? with
    | some chain, some exchange, some asset1, some asset2, some round =>
      let key : AssetKey := ⟨chain, exchange, asset1, asset2⟩
      if (s.assetRegistry key).isNone then (.err (.module .assetNotInitialized), s)
      else
        match s.assetRegistry key with
        | some assetRegistry =>
          if who ∉ assetRegistry.oracleProviders then (.err (.module .oracleNotAuthorized), s)
          else
            updateAssetPricesLoop who chains exchanges assets1 assets2 rounds (index + 1) prices
              { s with priceRegistry := Function.update s.priceRegistry key (some ⟨round, 1, price⟩) }
        | none => updateAssetPricesLoop who chains exchanges assets1 assets2 rounds (index + 1) prices s
    | _, _, _, _, _ => (.indexOutOfBounds, s)

/-- `update_asset_prices`. `submitted_at` is never read. -/
def updateAssetPrices (origin : Origin) (chains : List ChainName) (exchanges : List Exchange)
    (assets1 assets2 : List AssetName) (prices _submittedAt rounds : List Nat) :
    State → Outcome × State :=
  transactional fun s =>
    match ensureSigned origin with
    | .error e => (.err e, s)
    | .ok who => updateAssetPricesLoop who chains exchanges assets1 assets2 rounds 0 prices s

/-- `delete_asset`: the purge of the asset's tasks is commented out, so a known key only
yields `AssetDeleted`. -/
def deleteAsset (origin : Origin) (chain : ChainName) (exchange : Exchange)
    (asset1 asset2 : AssetName) : State → Outcome × State :=
  transactional fun s =>
    match ensureRoot origin with
    | .error e => (.err e, s)
    | .ok () =>
      match s.assetRegistry ⟨chain, exchange, asset1, asset2⟩ with
      | some _ => (.ok, s.depositEvent (.assetDeleted asset1))
      | none => (.err (.module .assetNotSupported), s)

structure PriceEntry where
  key : AssetKey
  price : Nat
  round : Nat

/-- The entries of a batch, position by position, up to the shortest vector. -/
def priceBatch : List ChainName → List Exchange → List AssetName → List AssetName → List Nat →
    List Nat → List PriceEntry
  | _, _, _, _, [], _ => []
  | c :: cs, x :: xs, a :: as, b :: bs, p :: ps, r :: rs =>
      ⟨⟨c, x, a, b⟩, p, r⟩ :: priceBatch cs xs as bs ps rs
  | _, _, _, _, _, _ => []

/-- Why `who` may not write the price of `key`, if it may not. -/
def priceUpdateError (s : State) (who : AccountId) (key : AssetKey) : Option Error :=
  match s.assetRegistry key with
  | none => some .assetNotInitialized
  | some info => if who ∈ info.oracleProviders then none else some .oracleNotAuthorized

/-- The price registry after writing every entry of a batch in order. -/
def writePrices (pr : AssetKey → Option PriceData) (batch : List PriceEntry) :
    AssetKey → Option PriceData :=
  batch.foldl (fun pr e => Function.update pr e.key (some ⟨e.round, 1, e.price⟩)) pr

/-- A batch is all or nothing: the first entry `who` may not write fails it with nothing
changed; otherwise every entry is written in order. -/
def applyPriceBatch (who : AccountId) (batch : List PriceEntry) (s : State) : Outcome × State :=
  match batch.findSome? fun e => priceUpdateError s who e.key with
  | some e => (.err (.module e), s)
  | none => (.ok, { s with priceRegistry := writePrices s.priceRegistry batch })

@[simp] theorem priceUpdateError_priceRegistry (s : State) (pr) (who : AccountId) (key : AssetKey) :
    priceUpdateError { s with priceRegistry := pr } who key = priceUpdateError s who key := rfl

theorem writePrices_apply (pr : AssetKey → Option PriceData) (batch : List PriceEntry)
    (k : AssetKey) : writePrices pr batch k =
      ((batch.reverse.find? fun e => e.key = k).map fun e => ⟨e.round, 1, e.price⟩).or (pr k) := by
  induction batch generalizing pr with
  | nil => rfl
  | cons e batch ih =>
      rw [writePrices, List.foldl_cons, ← writePrices, ih, List.reverse_cons, List.find?_append]
      by_cases h : e.key = k
      · subst h; cases List.find? _ batch.reverse <;> simp
      · cases List.find? _ batch.reverse <;> simp [h, Function.update_noteq (Ne.symm h)]

theorem applyPriceBatch_cons_of_some {who : AccountId} {e : PriceEntry} {batch : List PriceEntry}
    {s : State} {err : Error} (h : priceUpdateError s who e.key = some err) :
    applyPriceBatch who (e :: batch) s = (.err (.module err), s) := by
  simp [applyPriceBatch, List.findSome?_cons, h]

theorem applyPriceBatch_cons_of_none {who : AccountId} {e : PriceEntry} {batch : List PriceEntry}
    {s : State} (h : priceUpdateError s who e.key = none) :
    AgreesOnOk (applyPriceBatch who batch
        { s with priceRegistry := Function.update s.priceRegistry e.key (some ⟨e.round, 1, e.price⟩) })
      (applyPriceBatch who (e :: batch) s) := by
  simp only [AgreesOnOk, applyPriceBatch, List.findSome?_cons, h, priceUpdateError_priceRegistry]
  cases List.findSome? (fun e => priceUpdateError s who e.key) batch <;> simp [writePrices]

theorem applyPriceBatch_snd_of_ne_ok {who : AccountId} {batch : List PriceEntry} {s : State}
    (h : (applyPriceBatch who batch s).1 ≠ .ok) : (applyPriceBatch who batch s).2 = s := by
  unfold applyPriceBatch at *; split <;> simp_all

theorem applyPriceBatch_snd_of_ok {who : AccountId} {batch : List PriceEntry} {s : State}
    (h : (applyPriceBatch who batch s).1 = .ok) :
    (applyPriceBatch who batch s).2 = { s with priceRegistry := writePrices s.priceRegistry batch } := by
  unfold applyPriceBatch at *; split <;> simp_all

theorem updateAssetPricesLoop_batch {who : AccountId} {chains : List ChainName}
    {exchanges : List Exchange} {assets1 assets2 : List AssetName} {rounds : List Nat}
    {index : Nat} {prices : List Nat} {s : State}
    (hc : index + prices.length ≤ chains.length) (hx : index + prices.length ≤ exchanges.length)
    (ha : index + prices.length ≤ assets1.length) (hb : index + prices.length ≤ assets2.length)
    (hr : index + prices.length ≤ rounds.length) :
    AgreesOnOk (updateAssetPricesLoop who chains exchanges assets1 assets2 rounds index prices s)
      (applyPriceBatch who (priceBatch (chains.drop index) (exchanges.drop index)
        (assets1.drop index) (assets2.drop index) prices (rounds.drop index)) s) := by
  induction prices generalizing index s with
  | nil => simp [AgreesOnOk, updateAssetPricesLoop, priceBatch, applyPriceBatch, writePrices]
  | cons price prices ih =>
    simp only [List.length_cons] at hc hx ha hb hr
    rw [List.drop_eq_getElem_cons (by omega : index < chains.length),
      List.drop_eq_getElem_cons (by omega : index < exchanges.length),
      List.drop_eq_getElem_cons (by omega : index < assets1.length),
      List.drop_eq_getElem_cons (by omega : index < assets2.length),
      List.drop_eq_getElem_cons (by omega : index < rounds.length), priceBatch]
    simp only [updateAssetPricesLoop, List.getElem?_eq_getElem (by omega : index < chains.length),
      List.getElem?_eq_getElem (by omega : index < exchanges.length),
      List.getElem?_eq_getElem (by omega : index < assets1.length),
      List.getElem?_eq_getElem (by omega : index < assets2.length),
      List.getElem?_eq_getElem (by omega : index < rounds.length)]
    generalize (⟨chains[index], exchanges[index], assets1[index], assets2[index]⟩ : AssetKey) = key
    cases hreg : s.assetRegistry key with
    | none =>
        have herr : priceUpdateError s who key = some .assetNotInitialized := by
          simp [priceUpdateError, hreg]
        rw [applyPriceBatch_cons_of_some herr]
        simp [AgreesOnOk, hreg]
    | some info =>
        by_cases hwho : who ∈ info.oracleProviders
        · have hnone : priceUpdateError s who key = none := by simp [priceUpdateError, hreg, hwho]
          simp only [hreg, Option.isNone_some, hwho, not_true_eq_false, if_false, Bool.false_eq_true]
          exact (ih (by omega) (by omega) (by omega) (by omega) (by omega)).trans
            (@applyPriceBatch_cons_of_none who ⟨key, price, rounds[index]⟩ _ s hnone)
        · have herr : priceUpdateError s who key = some .oracleNotAuthorized := by
            simp [priceUpdateError, hreg, hwho]
          rw [applyPriceBatch_cons_of_some herr]
          simp [AgreesOnOk, hreg, hwho]

theorem updateAssetPrices_batch {s : State} {who : AccountId} {chains : List ChainName}
    {exchanges : List Exchange} {assets1 assets2 : List AssetName}
    {prices submittedAt rounds : List Nat}
    (hc : prices.length ≤ chains.length) (hx : prices.length ≤ exchanges.length)
    (ha : prices.length ≤ assets1.length) (hb : prices.length ≤ assets2.length)
    (hr : prices.length ≤ rounds.length) :
    updateAssetPrices (.signed who) chains exchanges assets1 assets2 prices submittedAt rounds s =
      applyPriceBatch who (priceBatch chains exchanges assets1 assets2 prices rounds) s := by
  have h := @updateAssetPricesLoop_batch who chains exchanges assets1 assets2 rounds 0 prices s
    (by omega) (by omega) (by omega) (by omega) (by omega)
  simp only [List.drop_zero] at h
  exact transactional_eq_of_agrees h applyPriceBatch_snd_of_ne_ok

theorem priceUpdateError_eq_none {s : State} {who : AccountId} {key : AssetKey} :
    priceUpdateError s who key = none ↔
      ∃ info, s.assetRegistry key = some info ∧ who ∈ info.oracleProviders := by
  unfold priceUpdateError; split <;> simp_all

theorem applyPriceBatch_ok_iff {who : AccountId} {batch : List PriceEntry} {s : State} :
    (applyPriceBatch who batch s).1 = .ok ↔
      ∀ e ∈ batch, ∃ info, s.assetRegistry e.key = some info ∧ who ∈ info.oracleProviders := by
  simp only [applyPriceBatch, ← priceUpdateError_eq_none, ← List.findSome?_eq_none_iff]
  split <;> simp_all

/-- The pair `("eth", "uni", "USDC", "ETH")`: USDC against ETH on the `uni` exchange of the `eth`
chain, as ASCII bytes. -/
def uniUsdcEth : AssetKey := ⟨[101, 116, 104], [117, 110, 105], [85, 83, 68, 67], [69, 84, 72]⟩

/-- A batch of equal-length vectors is all or nothing. It succeeds exactly when `who` may
write every entry's key; it then writes the entries in order, so that the last entry for a
key wins, and changes nothing else. Otherwise it fails with the error of the first entry
`who` may not write, and changes nothing. `submitted_at` is never read, so its length is
free. -/
theorem updateAssetPrices_all_or_nothing (s : State) (who : AccountId) (chains : List ChainName)
    (exchanges : List Exchange) (assets1 assets2 : List AssetName)
    (prices submittedAt rounds : List Nat)
    (hc : chains.length = prices.length) (hx : exchanges.length = prices.length)
    (ha : assets1.length = prices.length) (hb : assets2.length = prices.length)
    (hr : rounds.length = prices.length) :
    let r := updateAssetPrices (.signed who) chains exchanges assets1 assets2 prices submittedAt
      rounds s
    let batch := priceBatch chains exchanges assets1 assets2 prices rounds
    (r.1 = .ok ↔
      ∀ e ∈ batch, ∃ info, s.assetRegistry e.key = some info ∧ who ∈ info.oracleProviders) ∧
    (r.1 = .ok → r.2 = { s with priceRegistry := writePrices s.priceRegistry batch } ∧
      ∀ k, r.2.priceRegistry k = ((batch.reverse.find? fun e => e.key = k).map
        fun e => ⟨e.round, 1, e.price⟩).or (s.priceRegistry k)) ∧
    (r.1 ≠ .ok → r.2 = s ∧ ∃ err, (batch.findSome? fun e => priceUpdateError s who e.key) =
      some err ∧ r.1 = .err (.module err)) := by
  intro r batch
  have hr' : r = applyPriceBatch who batch s :=
    updateAssetPrices_batch (by omega) (by omega) (by omega) (by omega) (by omega)
  have written : r.1 = .ok → r.2 = { s with priceRegistry := writePrices s.priceRegistry batch } := by
    rw [hr']; unfold applyPriceBatch; split <;> simp_all
  refine ⟨hr' ▸ applyPriceBatch_ok_iff, fun hok => ⟨written hok, fun k => ?_⟩, fun hne => ?_⟩
  · rw [written hok]; exact writePrices_apply _ _ _
  · rw [hr'] at hne ⊢
    refine ⟨applyPriceBatch_snd_of_ne_ok hne, ?_⟩
    unfold applyPriceBatch at hne ⊢
    split <;> simp_all

/-- Root registers `uniUsdcEth` with decimal 6 and oracle provider 1, which then posts the
price 1800 at round 1: the one-entry batch is accepted. -/
theorem updateAssetPrices_provider_accepted :
    (updateAssetPrices (.signed 1) [uniUsdcEth.chain] [uniUsdcEth.exchange] [uniUsdcEth.asset1]
      [uniUsdcEth.asset2] [1800] [0] [1] (initializeAsset .root uniUsdcEth.chain
        uniUsdcEth.exchange uniUsdcEth.asset1 uniUsdcEth.asset2 6 [1] State.empty).2).1 = .ok :=
  (updateAssetPrices_all_or_nothing _ 1 [uniUsdcEth.chain] [uniUsdcEth.exchange]
    [uniUsdcEth.asset1] [uniUsdcEth.asset2] [1800] [0] [1] rfl rfl rfl rfl rfl).1.mpr
    (by simp [priceBatch, initializeAsset, transactional, ensureRoot, createNewAsset,
      State.depositEvent, State.empty])

/-- Vectors of unequal lengths are not rejected. One price against two entries succeeds and
writes the first entry only; one price against empty key vectors panics on `chains[0]`. -/
theorem updateAssetPrices_unequal_lengths :
    Prod.map id (fun s => s.priceRegistry uniUsdcEth)
        (updateAssetPrices (.signed 1) [uniUsdcEth.chain, uniUsdcEth.chain]
          [uniUsdcEth.exchange, uniUsdcEth.exchange] [uniUsdcEth.asset1, uniUsdcEth.asset1]
          [uniUsdcEth.asset2, uniUsdcEth.asset2] [1800] [0, 0] [1, 2]
          (initializeAsset .root uniUsdcEth.chain uniUsdcEth.exchange uniUsdcEth.asset1
            uniUsdcEth.asset2 6 [1] State.empty).2) =
      (.ok, some ⟨1, 1, 1800⟩) ∧
    (updateAssetPrices (.signed 1) [] [] [] [] [1800] [] [] State.empty).1 = .indexOutOfBounds := by
  decide

theorem updateAssetPricesLoop_ok_length {who : AccountId} {chains : List ChainName}
    {exchanges : List Exchange} {assets1 assets2 : List AssetName} {rounds : List Nat}
    {index : Nat} {prices : List Nat} {s : State}
    (h : (updateAssetPricesLoop who chains exchanges assets1 assets2 rounds index prices s).1 = .ok) :
    prices = [] ∨ index + prices.length ≤ chains.length ∧
      index + prices.length ≤ exchanges.length ∧ index + prices.length ≤ assets1.length ∧
      index + prices.length ≤ assets2.length ∧ index + prices.length ≤ rounds.length := by
  induction prices generalizing index s with
  | nil => exact .inl rfl
  | cons price prices ih =>
    simp only [updateAssetPricesLoop] at h
    split at h
    · next chain exchange asset1 asset2 round hc hx ha hb hr =>
      obtain ⟨s', hrec⟩ : ∃ s', (updateAssetPricesLoop who chains exchanges assets1 assets2 rounds
          (index + 1) prices s').1 = .ok := by
        split at h
        · cases h
        · split at h
          · split at h
            · cases h
            · exact ⟨_, h⟩
          · exact ⟨_, h⟩
      have := (List.getElem?_eq_some_iff.mp hc).1
      have := (List.getElem?_eq_some_iff.mp hx).1
      have := (List.getElem?_eq_some_iff.mp ha).1
      have := (List.getElem?_eq_some_iff.mp hb).1
      have := (List.getElem?_eq_some_iff.mp hr).1
      right
      rcases ih hrec with rfl | rest <;> simp only [List.length_cons, List.length_nil] <;> omega
    · cases h

/-- `update_asset_prices` succeeds exactly when none of `chains`, `exchanges`, `assets1`,
`assets2` and `rounds` is shorter than `prices` and `who` may write every entry of the batch
of the first `prices.length` positions. It then writes that batch in order and nothing else:
entries past `prices.length` in longer vectors are ignored. -/
theorem updateAssetPrices_ok_iff (s : State) (who : AccountId) (chains : List ChainName)
    (exchanges : List Exchange) (assets1 assets2 : List AssetName)
    (prices submittedAt rounds : List Nat) :
    ((updateAssetPrices (.signed who) chains exchanges assets1 assets2 prices submittedAt rounds
        s).1 = .ok ↔
      (prices.length ≤ chains.length ∧ prices.length ≤ exchanges.length ∧
        prices.length ≤ assets1.length ∧ prices.length ≤ assets2.length ∧
        prices.length ≤ rounds.length) ∧
      ∀ e ∈ priceBatch chains exchanges assets1 assets2 prices rounds,
        ∃ info, s.assetRegistry e.key = some info ∧ who ∈ info.oracleProviders) ∧
    ((updateAssetPrices (.signed who) chains exchanges assets1 assets2 prices submittedAt rounds
        s).1 = .ok →
      (updateAssetPrices (.signed who) chains exchanges assets1 assets2 prices submittedAt rounds
        s).2 = { s with
          priceRegistry :=
            writePrices s.priceRegistry (priceBatch chains exchanges assets1 assets2 prices rounds) }) := by
  have lengths (h : (updateAssetPrices (.signed who) chains exchanges assets1 assets2 prices
      submittedAt rounds s).1 = .ok) :
      prices.length ≤ chains.length ∧ prices.length ≤ exchanges.length ∧
        prices.length ≤ assets1.length ∧ prices.length ≤ assets2.length ∧
        prices.length ≤ rounds.length := by
    rw [updateAssetPrices, transactional_fst] at h
    rcases updateAssetPricesLoop_ok_length h with hp | hl
    · simp [hp]
    · simpa using hl
  have batch (hl : prices.length ≤ chains.length ∧ prices.length ≤ exchanges.length ∧
      prices.length ≤ assets1.length ∧ prices.length ≤ assets2.length ∧
      prices.length ≤ rounds.length) :=
    @updateAssetPrices_batch s who chains exchanges assets1 assets2 prices submittedAt rounds
      hl.1 hl.2.1 hl.2.2.1 hl.2.2.2.1 hl.2.2.2.2
  refine ⟨⟨fun h => ⟨lengths h, ?_⟩, fun ⟨hl, hall⟩ => ?_⟩, fun h => ?_⟩
  · rw [batch (lengths h)] at h
    exact applyPriceBatch_ok_iff.mp h
  · rw [batch hl]
    exact applyPriceBatch_ok_iff.mpr hall
  · have e := batch (lengths h)
    rw [e] at h ⊢
    exact applyPriceBatch_snd_of_ok h

/-- `s'` keeps every price of `s` and every asset `s` has registered, as registered. -/
def RegistryKept (s s' : State) : Prop :=
  s'.priceRegistry = s.priceRegistry ∧
    ∀ k info, s.assetRegistry k = some info → s'.assetRegistry k = some info

theorem RegistryKept.refl (s : State) : RegistryKept s s := ⟨rfl, fun _ _ h => h⟩

theorem RegistryKept.transactional {f : State → Outcome × State} {s : State}
    (h : RegistryKept s (f s).2) : RegistryKept s (transactional f s).2 :=
  transactional_snd_of (RegistryKept.refl s) h

theorem createNewAsset_kept (chain : ChainName) (exchange : Exchange) (asset1 asset2 : AssetName)
    (decimal : UInt8) (assetOwners : List AccountId) (s : State) :
    RegistryKept s (createNewAsset chain exchange asset1 asset2 decimal assetOwners s).2 := by
  unfold createNewAsset
  dsimp only
  split
  · exact RegistryKept.refl s
  · refine ⟨rfl, fun k info h => ?_⟩
    have hk : k ≠ ⟨chain, exchange, asset1, asset2⟩ := by rintro rfl; simp_all
    simpa [State.depositEvent, Function.update_noteq hk] using h

theorem initializeAsset_kept (origin : Origin) (chain : ChainName) (exchange : Exchange)
    (asset1 asset2 : AssetName) (decimal : UInt8) (assetOwners : List AccountId) (s : State) :
    RegistryKept s (initializeAsset origin chain exchange asset1 asset2 decimal assetOwners s).2 := by
  refine RegistryKept.transactional ?_
  cases ensureRoot origin
  · exact RegistryKept.refl s
  · exact createNewAsset_kept _ _ _ _ _ _ s

theorem deleteAsset_kept (origin : Origin) (chain : ChainName) (exchange : Exchange)
    (asset1 asset2 : AssetName) (s : State) :
    RegistryKept s (deleteAsset origin chain exchange asset1 asset2 s).2 := by
  refine RegistryKept.transactional ?_
  cases ensureRoot origin
  · exact RegistryKept.refl s
  · dsimp only; split
    · exact ⟨rfl, fun _ _ h => h⟩
    · exact RegistryKept.refl s

theorem updateAssetPricesLoop_writes (who : AccountId) (chains : List ChainName)
    (exchanges : List Exchange) (assets1 assets2 : List AssetName) (rounds : List Nat)
    (index : Nat) (prices : List Nat) (s : State) :
    ∃ pr, (updateAssetPricesLoop who chains exchanges assets1 assets2 rounds index prices s).2 =
        { s with priceRegistry := pr } ∧
      ∀ k, pr k ≠ s.priceRegistry k →
        ∃ info, s.assetRegistry k = some info ∧ who ∈ info.oracleProviders := by
  induction prices generalizing index s with
  | nil => exact ⟨s.priceRegistry, rfl, fun _ h => (h rfl).elim⟩
  | cons price prices ih =>
    simp only [updateAssetPricesLoop]
    split
    · next chain exchange asset1 asset2 round _ _ _ _ _ =>
      split
      · exact ⟨s.priceRegistry, rfl, fun _ h => (h rfl).elim⟩
      · split
        · next info hreg =>
          split
          · exact ⟨s.priceRegistry, rfl, fun _ h => (h rfl).elim⟩
          · next hwho =>
            obtain ⟨pr, hpr, hch⟩ := ih (index + 1)
              { s with priceRegistry := (Function.update s.priceRegistry
                  ⟨chain, exchange, asset1, asset2⟩ (some ⟨round, 1, price⟩)) }
            refine ⟨pr, hpr, fun k hk => ?_⟩
            by_cases hkey : k = ⟨chain, exchange, asset1, asset2⟩
            · exact hkey ▸ ⟨info, hreg, not_not.mp hwho⟩
            · exact hch k (by simpa [Function.update_noteq hkey] using hk)
        · exact ih (index + 1) s
    · exact ⟨s.priceRegistry, rfl, fun _ h => (h rfl).elim⟩

theorem updateAssetPrices_writes (origin : Origin) (chains : List ChainName)
    (exchanges : List Exchange) (assets1 assets2 : List AssetName)
    (prices submittedAt rounds : List Nat) (s : State) :
    let r := updateAssetPrices origin chains exchanges assets1 assets2 prices submittedAt rounds s
    r.2.assetRegistry = s.assetRegistry ∧
      ∀ k, r.2.priceRegistry k ≠ s.priceRegistry k → r.1 = .ok ∧ ∃ who, origin = .signed who ∧
        ∃ info, s.assetRegistry k = some info ∧ who ∈ info.oracleProviders := by
  intro r
  cases origin with
  | signed who =>
    obtain ⟨pr, hpr, hch⟩ :=
      updateAssetPricesLoop_writes who chains exchanges assets1 assets2 rounds 0 prices s
    by_cases hok : (updateAssetPricesLoop who chains exchanges assets1 assets2 rounds 0 prices s).1 = .ok
    · have hr : r = updateAssetPricesLoop who chains exchanges assets1 assets2 rounds 0 prices s :=
        transactional_of_ok hok
      rw [hr, hpr]
      exact ⟨rfl, fun k hk => ⟨hok, who, rfl, hch k hk⟩⟩
    · have hr : r.2 = s := congrArg Prod.snd (transactional_of_ne_ok hok)
      rw [hr]
      exact ⟨rfl, fun k hk => (hk rfl).elim⟩
  | root | none =>
    have hr : r.2 = s := congrArg Prod.snd (transactional_of_ne_ok (by simp [ensureSigned]))
    rw [hr]
    exact ⟨rfl, fun k hk => (hk rfl).elim⟩

theorem updateAssetPricesLoop_induction {P : State → Prop} {who : AccountId}
    {chains : List ChainName} {exchanges : List Exchange} {assets1 assets2 : List AssetName}
    {rounds : List Nat}
    (hwrite : ∀ s key info round price, P s → s.assetRegistry key = some info →
      who ∈ info.oracleProviders →
      P { s with priceRegistry := Function.update s.priceRegistry key (some ⟨round, 1, price⟩) })
    (index : Nat) (prices : List Nat) {s : State} (h : P s) :
    P (updateAssetPricesLoop who chains exchanges assets1 assets2 rounds index prices s).2 := by
  induction prices generalizing index s with
  | nil => exact h
  | cons price prices ih =>
    simp only [updateAssetPricesLoop]
    split
    · split
      · exact h
      · split
        · next info hreg =>
          split
          · exact h
          · next hwho => exact ih _ (hwrite _ _ info _ _ h hreg (not_not.mp hwho))
        · exact ih _ h
    · exact h

theorem createNewAsset_taskStore (chain : ChainName) (exchange : Exchange)
    (asset1 asset2 : AssetName) (decimal : UInt8) (assetOwners : List AccountId) (s : State) :
    (createNewAsset chain exchange asset1 asset2 decimal assetOwners s).2.taskStore =
      s.taskStore := by
  dsimp only [createNewAsset]; split <;> rfl

theorem initializeAsset_taskStore (origin : Origin) (chain : ChainName) (exchange : Exchange)
    (asset1 asset2 : AssetName) (decimal : UInt8) (assetOwners : List AccountId) (s : State) :
    (initializeAsset origin chain exchange asset1 asset2 decimal assetOwners s).2.taskStore =
      s.taskStore := by
  refine transactional_snd_of (P := fun t => t.taskStore = s.taskStore) rfl ?_
  cases ensureRoot origin
  · rfl
  · exact createNewAsset_taskStore chain exchange asset1 asset2 decimal assetOwners s

theorem deleteAsset_taskStore (origin : Origin) (chain : ChainName) (exchange : Exchange)
    (asset1 asset2 : AssetName) (s : State) :
    (deleteAsset origin chain exchange asset1 asset2 s).2.taskStore = s.taskStore := by
  refine transactional_snd_of (P := fun t => t.taskStore = s.taskStore) rfl ?_
  cases ensureRoot origin
  · rfl
  · dsimp only; split <;> rfl

theorem updateAssetPrices_taskStore (origin : Origin) (chains : List ChainName)
    (exchanges : List Exchange) (assets1 assets2 : List AssetName)
    (prices submittedAt rounds : List Nat) (s : State) :
    (updateAssetPrices origin chains exchanges assets1 assets2 prices submittedAt rounds
      s).2.taskStore = s.taskStore := by
  refine transactional_snd_of (P := fun t => t.taskStore = s.taskStore) rfl ?_
  cases ensureSigned origin with
  | error => rfl
  | ok who =>
    obtain ⟨pr, hpr, -⟩ :=
      updateAssetPricesLoop_writes who chains exchanges assets1 assets2 rounds 0 prices s
    dsimp only; rw [hpr]; rfl

end AutomationPrice

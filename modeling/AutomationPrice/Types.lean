import AutomationPrice.Weight
import Mathlib.Logic.Function.Basic

/-! The pallet's types and storage. A `Vec<u8>` is a list of bytes and a `u128` a natural
number: the pallet does no arithmetic on them. A storage map is a function into `Option`,
written with `Function.update`. Cross-chain locations and the fee asset belong to other
crates and the pallet only stores them, so they are kept as their encodings; the currency
and the location conversion the pallet calls are fields of `Config`. -/

namespace AutomationPrice

/-- `Vec<u8>`. -/
abbrev Bytes := List UInt8

abbrev TaskId := Bytes
abbrev ChainName := Bytes
abbrev Exchange := Bytes
abbrev AssetName := Bytes
abbrev AssetPair := AssetName × AssetName

/-- `T::AccountId`: the pallet only compares accounts. -/
abbrev AccountId := Nat

abbrev Balance := Nat
abbrev Hash := Bytes
abbrev MultiLocation := Bytes
abbrev VersionedMultiLocation := Bytes
abbrev AssetPayment := Bytes

/-- The composite key `(chain, exchange, asset1, asset2)` of the asset storage maps. -/
structure AssetKey where
  chain : ChainName
  exchange : Exchange
  asset1 : AssetName
  asset2 : AssetName
  deriving DecidableEq

inductive InstructionSequence
  | payThroughSovereignAccount
  | payThroughRemoteDerivativeAccount
  deriving DecidableEq

inductive Action
  | nativeTransfer (sender recipient : AccountId) (amount : Balance)
  | xcmp (destination scheduleFee : MultiLocation) (executionFee : AssetPayment)
      (encodedCall : Bytes) (encodedCallWeight overallWeight : Weight)
      (scheduleAs : Option AccountId) (instructionSequence : InstructionSequence)
  deriving DecidableEq

structure Task where
  ownerId : AccountId
  taskId : TaskId
  chain : ChainName
  exchange : Exchange
  assetPair : AssetPair
  triggerFunction : Bytes
  triggerParams : List Nat
  action : Action
  deriving DecidableEq

def Task.assetKey (t : Task) : AssetKey := ⟨t.chain, t.exchange, t.assetPair.1, t.assetPair.2⟩

structure RegistryInfo where
  round : Nat
  decimal : UInt8
  lastUpdate : Nat
  oracleProviders : List AccountId
  deriving DecidableEq

structure PriceData where
  round : Nat
  nonce : Nat
  amount : Nat
  deriving DecidableEq

/-- The pallet's `Error<T>`, every variant it declares. -/
inductive Error
  | emptyProvidedId
  | invalidTime
  | duplicateTask
  | assetNotSupported
  | assetNotInitialized
  | assetAlreadySupported
  | assetAlreadyInitialized
  | invalidAssetSudo
  | oracleNotAuthorized
  | assetNotInTriggerableRange
  | blockTimeNotSet
  | invalidAssetExpirationWindow
  | maxTasksReached
  | taskInsertionFailure
  | insufficientBalance
  | liquidityRestrictions
  | assetLimitReached
  | badVersion
  deriving DecidableEq

/-- `DispatchError`: a bad origin, an error of this pallet, or one raised by another pallet
(the currency), kept opaque. -/
inductive DispatchError
  | badOrigin
  | module (e : Error)
  | other (code : Nat)
  deriving DecidableEq

/-- The events the live code deposits. -/
inductive Event
  | taskScheduled (who : AccountId) (taskId : TaskId)
  | assetCreated (chain : ChainName) (exchange : Exchange) (asset1 asset2 : AssetName)
      (decimal : UInt8)
  | assetDeleted (asset : AssetName)
  | successfullyTransferredFunds (taskId : TaskId)
  | transferFailed (taskId : TaskId) (error : DispatchError)
  deriving DecidableEq

/-- `RawOrigin`. -/
inductive Origin
  | root
  | signed (who : AccountId)
  | none
  deriving DecidableEq

/-- `BTreeMap<TaskId, u128>`: the first trigger parameter of each indexed task. -/
abbrev TaskIndex := TaskId → Option Nat

/-- The storage the pallet reads or writes, with the block's events and the currency's
ledger. `scheduledTasks` lists the entries of `ScheduledTasks` in storage order. -/
structure State where
  assetRegistry : AssetKey → Option RegistryInfo
  priceRegistry : AssetKey → Option PriceData
  sortedTasksIndex : AssetKey → Option TaskIndex
  scheduledTasks : List ((AssetName × Bytes) × List Hash)
  tasks : TaskId → Option Task
  taskQueue : List (AssetName × Hash)
  shutdown : Bool
  events : List Event
  balances : AccountId → Balance

/-- Storage at genesis: nothing registered, indexed, scheduled or queued. -/
def State.empty : State where
  assetRegistry _ := none
  priceRegistry _ := none
  sortedTasksIndex _ := none
  scheduledTasks := []
  tasks _ := none
  taskQueue := []
  shutdown := false
  events := []
  balances _ := 0

/-- `Self::deposit_event`. -/
def State.depositEvent (s : State) (e : Event) : State := { s with events := s.events ++ [e] }

def State.taskStore (s : State) : (TaskId → Option Task) × (AssetKey → Option TaskIndex) :=
  (s.tasks, s.sortedTasksIndex)

/-- `WeightInfo`: the benchmarked weights, which live outside `src/`. -/
structure WeightInfo where
  emitEvent : Weight
  runNativeTransferTask : Weight

/-- The pallet's `Config`, as far as the live code reads it. -/
structure Config where
  dbWeight : RuntimeDbWeight
  weightInfo : WeightInfo
  maxBlockWeight : Nat
  maxBlockWeight_le : maxBlockWeight ≤ u64Max
  maxWeightPercentage : Perbill
  /-- `T::Currency::transfer(sender, recipient, amount, KeepAlive)` on the ledger. -/
  transfer : (AccountId → Balance) → AccountId → AccountId → Balance →
    Except DispatchError (AccountId → Balance)
  /-- `MultiLocation::try_from` on a versioned location. -/
  multiLocationTryFrom : VersionedMultiLocation → Option MultiLocation

/-- A configuration to run the model on: RocksDB weights (25 µs a read, 100 µs a write), a
half-second block of which 10% goes to tasks, placeholder benchmark weights (the real ones are
outside `src/`), a ledger transfer that fails when the sender lacks the amount, and a location
conversion that accepts every location. -/
def sampleConfig : Config where
  dbWeight := ⟨25000000, 100000000, by decide, by decide⟩
  weightInfo := ⟨⟨20000000, 0, by decide, by decide⟩, ⟨50000000, 0, by decide, by decide⟩⟩
  maxBlockWeight := 500000000000
  maxBlockWeight_le := by decide
  maxWeightPercentage := ⟨100000000, by decide⟩
  transfer balances sender recipient amount :=
    if amount ≤ balances sender then
      .ok (Function.update (Function.update balances sender (balances sender - amount)) recipient
        (balances recipient + amount))
    else .error (.other 0)
  multiLocationTryFrom := some

def ensureSigned : Origin → Except DispatchError AccountId
  | .signed who => .ok who
  | _ => .error .badOrigin

def ensureRoot : Origin → Except DispatchError Unit
  | .root => .ok ()
  | _ => .error .badOrigin

/-- How a call ends: `Ok(())`, an error, or a panic on an out-of-bounds index. -/
inductive Outcome
  | ok
  | err (e : DispatchError)
  | indexOutOfBounds
  deriving DecidableEq

/-- `#[transactional]`: the writes of a call that does not end in `Ok` are discarded. A panic
aborts the whole extrinsic, which discards them as well. -/
def transactional (f : State → Outcome × State) (s : State) : Outcome × State :=
  match f s with
  | (.ok, s') => (.ok, s')
  | (r, _) => (r, s)

@[simp] theorem transactional_fst (f : State → Outcome × State) (s : State) :
    (transactional f s).1 = (f s).1 := by
  unfold transactional; split <;> simp_all

theorem transactional_of_ok {f : State → Outcome × State} {s : State} (h : (f s).1 = .ok) :
    transactional f s = f s := by
  unfold transactional; split <;> simp_all

theorem transactional_of_ne_ok {f : State → Outcome × State} {s : State}
    (h : (f s).1 ≠ .ok) : transactional f s = ((f s).1, s) := by
  unfold transactional; split <;> simp_all

theorem transactional_snd_eq_of_ne_ok {f : State → Outcome × State} {s : State}
    (h : (transactional f s).1 ≠ .ok) : (transactional f s).2 = s := by
  rw [transactional_of_ne_ok (by rwa [transactional_fst] at h)]

theorem transactional_snd (f : State → Outcome × State) (s : State) :
    (transactional f s).2 = s ∨ (transactional f s).2 = (f s).2 := by
  unfold transactional; split <;> simp_all

theorem transactional_snd_of {P : State → Prop} {f : State → Outcome × State} {s : State}
    (h₀ : P s) (h₁ : P (f s).2) : P (transactional f s).2 := by
  rcases transactional_snd f s with e | e <;> rw [e] <;> assumption

/-- Two results end alike, and in the same state when they end in `Ok`: the state a failed
call leaves behind is discarded by `transactional`. -/
def AgreesOnOk (r a : Outcome × State) : Prop := r.1 = a.1 ∧ (r.1 = .ok → r.2 = a.2)

theorem AgreesOnOk.trans {r b a : Outcome × State} (h₁ : AgreesOnOk r b) (h₂ : AgreesOnOk b a) :
    AgreesOnOk r a :=
  ⟨h₁.1.trans h₂.1, fun h => (h₁.2 h).trans (h₂.2 (h₁.1 ▸ h))⟩

theorem transactional_eq_of_agrees {f : State → Outcome × State} {s : State} {a : Outcome × State}
    (h : AgreesOnOk (f s) a) (ha : a.1 ≠ .ok → a.2 = s) : transactional f s = a := by
  by_cases hok : (f s).1 = .ok
  · rw [transactional_of_ok hok]; exact Prod.ext h.1 (h.2 hok)
  · rw [transactional_of_ne_ok hok, h.1, ← ha (h.1 ▸ hok)]

end AutomationPrice

import AutomationPrice.Types

/-! The block hook and the asset reset bookkeeping: `trigger_tasks`, `on_initialize`,
`delete_asset_tasks` and the `Shutdown` valve. In `trigger_tasks` the periodic reset and the
task run are commented out, and `delete_asset` no longer calls `delete_asset_tasks`, so the
hook writes nothing. `delete_asset_tasks` itself empties the asset's part of both stores as long
as `clear_prefix` stays within its limit. -/

namespace AutomationPrice

/-- `trigger_tasks`: it compares the budget with the weight of two reads and returns it
either way. -/
def triggerTasks (cfg : Config) (maxWeight : Weight) : Weight :=
  let weightLeft := maxWeight
  let checkTimeAndDeletionWeight := cfg.dbWeight.reads 2
  if weightLeft.refTime < checkTimeAndDeletionWeight.refTime then weightLeft else weightLeft

/-- The task budget of a block, `MaxWeightPercentage` of `MaxBlockWeight`. -/
def maxWeight (cfg : Config) : Weight :=
  Weight.fromRefTime (cfg.maxWeightPercentage.mulFloor cfg.maxBlockWeight)
    ((Perbill.mulFloor_le _ _).trans cfg.maxBlockWeight_le)

/-- `on_initialize`: the weight it reports for the block. -/
def onInitialize (cfg : Config) (s : State) : Weight :=
  if s.shutdown then cfg.dbWeight.reads 1 else triggerTasks cfg (maxWeight cfg)

theorem triggerTasks_eq (cfg : Config) (w : Weight) : triggerTasks cfg w = w := by
  simp [triggerTasks]

theorem onInitialize_eq (cfg : Config) (s : State) :
    onInitialize cfg s = if s.shutdown then cfg.dbWeight.reads 1 else maxWeight cfg := by
  simp [onInitialize, triggerTasks_eq]

/-- `u32::MAX`, that is `2 ^ 32 - 1`. -/
def u32Max : Nat := 4294967295

/-- `clear_prefix((asset,), limit, None)` on `ScheduledTasks`: the first `limit` entries under
`asset`, in storage order, are removed. -/
def clearPrefix (asset : AssetName) :
    Nat → List ((AssetName × Bytes) × List Hash) → List ((AssetName × Bytes) × List Hash)
  | _, [] => []
  | limit, entry :: entries =>
    if entry.1.1 = asset then
      match limit with
      | 0 => entry :: entries
      | limit + 1 => clearPrefix asset limit entries
    else entry :: clearPrefix asset limit entries

/-- `delete_asset_tasks`. -/
def deleteAssetTasks (asset : AssetName) (s : State) : State :=
  let s := { s with scheduledTasks := clearPrefix asset u32Max s.scheduledTasks }
  let updatedTaskQueue := s.taskQueue.filter fun task => task.1 ≠ asset
  { s with taskQueue := updatedTaskQueue }

theorem clearPrefix_filter (asset : AssetName) (limit : Nat)
    (entries : List ((AssetName × Bytes) × List Hash)) :
    (clearPrefix asset limit entries).filter (fun entry => entry.1.1 ≠ asset) =
        entries.filter (fun entry => entry.1.1 ≠ asset) ∧
      (clearPrefix asset limit entries).filter (fun entry => entry.1.1 = asset) =
        (entries.filter fun entry => entry.1.1 = asset).drop limit := by
  induction entries generalizing limit with
  | nil => simp [clearPrefix]
  | cons entry entries ih =>
    simp only [ne_eq, decide_not] at ih ⊢
    by_cases he : entry.1.1 = asset
    · cases limit <;> simp [clearPrefix, he, ih]
    · simp [clearPrefix, he, ih]

theorem clearPrefix_of_le {asset : AssetName} {limit : Nat}
    {entries : List ((AssetName × Bytes) × List Hash)}
    (h : (entries.filter fun entry => entry.1.1 = asset).length ≤ limit) :
    clearPrefix asset limit entries = entries.filter fun entry => entry.1.1 ≠ asset := by
  obtain ⟨hkeep, hdrop⟩ := clearPrefix_filter asset limit entries
  rw [List.drop_eq_nil_of_le h, List.filter_eq_nil_iff] at hdrop
  rw [← hkeep, eq_comm, List.filter_eq_self]
  exact fun e he => by simpa using hdrop e he

/-- With at most `u32::MAX` entries under `asset`, `delete_asset_tasks` removes every entry
under `asset` from `ScheduledTasks` and every task of `asset` from the queue, keeps all other
entries in their order, and writes nothing else. -/
theorem deleteAssetTasks_removes_asset (asset : AssetName) (s : State)
    (hlimit : (s.scheduledTasks.filter fun entry => entry.1.1 = asset).length ≤ u32Max) :
    deleteAssetTasks asset s =
      { s with
        scheduledTasks := s.scheduledTasks.filter fun entry => entry.1.1 ≠ asset
        taskQueue := s.taskQueue.filter fun task => task.1 ≠ asset } := by
  rw [deleteAssetTasks, clearPrefix_of_le hlimit]

/-- Two assets, `[1]` and `[2]`, with their entries interleaved in the store and the queue. -/
def interleavedAssets : State :=
  { State.empty with
    scheduledTasks := [(([1], [0]), [[10]]), (([2], [0]), [[20]]), (([1], [1]), [[11]])],
    taskQueue := [([1], [10]), ([2], [20]), ([1], [11]), ([2], [21])] }

theorem deleteAssetTasks_keeps_other_asset :
    (interleavedAssets.scheduledTasks.filter fun entry => entry.1.1 = [1]).length ≤ u32Max ∧
      deleteAssetTasks [1] interleavedAssets =
        { interleavedAssets with
          scheduledTasks := [(([2], [0]), [[20]])]
          taskQueue := [([2], [20]), ([2], [21])] } :=
  ⟨by decide, by rw [deleteAssetTasks_removes_asset [1] interleavedAssets (by decide)]; rfl⟩

/-- `Shutdown::shutdown`. -/
def shutdown (s : State) : State := { s with shutdown := true }

/-- `Shutdown::restart`. -/
def restart (s : State) : State := { s with shutdown := false }

end AutomationPrice

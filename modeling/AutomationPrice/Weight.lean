import Mathlib.Order.MinMax

/-! Substrate's `Weight`, `RuntimeDbWeight` and `Perbill` as the pallet uses them. Every
component is a `u64`: the bound is a field, and the saturating operations clamp at
`u64::MAX` from above and at zero from below. -/

namespace AutomationPrice

/-- `u64::MAX`, that is `2 ^ 64 - 1`. -/
def u64Max : Nat := 18446744073709551615

/-- `u64::saturating_add`. -/
def satAdd (a b : Nat) : Nat := min (a + b) u64Max

/-- `u64::saturating_mul`. -/
def satMul (a b : Nat) : Nat := min (a * b) u64Max

theorem satAdd_le (a b : Nat) : satAdd a b ≤ u64Max := min_le_right _ _

theorem satMul_le (a b : Nat) : satMul a b ≤ u64Max := min_le_right _ _

theorem satAdd_of_le {a b : Nat} (h : a + b ≤ u64Max) : satAdd a b = a + b := min_eq_left h

/-- The weight of this Substrate version: a reference time and a proof size. -/
@[ext] structure Weight where
  refTime : Nat
  proofSize : Nat
  refTime_le : refTime ≤ u64Max
  proofSize_le : proofSize ≤ u64Max
  deriving DecidableEq

namespace Weight

/-- `Weight::from_ref_time`: the proof size is zero. -/
def fromRefTime (n : Nat) (h : n ≤ u64Max) : Weight := ⟨n, 0, h, Nat.zero_le _⟩

def zero : Weight := fromRefTime 0 (Nat.zero_le _)

/-- `Weight::saturating_add`, component by component. -/
def saturatingAdd (a b : Weight) : Weight :=
  ⟨satAdd a.refTime b.refTime, satAdd a.proofSize b.proofSize, satAdd_le _ _, satAdd_le _ _⟩

/-- `Weight::saturating_sub`, component by component. -/
def saturatingSub (a b : Weight) : Weight :=
  ⟨a.refTime - b.refTime, a.proofSize - b.proofSize,
    (Nat.sub_le _ _).trans a.refTime_le, (Nat.sub_le _ _).trans a.proofSize_le⟩

@[simp] theorem fromRefTime_refTime (n : Nat) (h) : (fromRefTime n h).refTime = n := rfl

@[simp] theorem fromRefTime_proofSize (n : Nat) (h) : (fromRefTime n h).proofSize = 0 := rfl

@[simp] theorem saturatingAdd_refTime (a b : Weight) :
    (a.saturatingAdd b).refTime = satAdd a.refTime b.refTime := rfl

@[simp] theorem saturatingAdd_proofSize (a b : Weight) :
    (a.saturatingAdd b).proofSize = satAdd a.proofSize b.proofSize := rfl

@[simp] theorem saturatingSub_refTime (a b : Weight) :
    (a.saturatingSub b).refTime = a.refTime - b.refTime := rfl

@[simp] theorem saturatingSub_proofSize (a b : Weight) :
    (a.saturatingSub b).proofSize = a.proofSize - b.proofSize := rfl

end Weight

/-- `RuntimeDbWeight`: the cost of one storage read and of one storage write. -/
structure RuntimeDbWeight where
  read : Nat
  write : Nat
  read_le : read ≤ u64Max
  write_le : write ≤ u64Max

namespace RuntimeDbWeight

def reads (db : RuntimeDbWeight) (r : Nat) : Weight :=
  Weight.fromRefTime (satMul db.read r) (satMul_le _ _)

def writes (db : RuntimeDbWeight) (w : Nat) : Weight :=
  Weight.fromRefTime (satMul db.write w) (satMul_le _ _)

@[simp] theorem reads_one_refTime (db : RuntimeDbWeight) : (db.reads 1).refTime = db.read := by
  simp [reads, satMul, db.read_le]

@[simp] theorem writes_one_refTime (db : RuntimeDbWeight) : (db.writes 1).refTime = db.write := by
  simp [writes, satMul, db.write_le]

end RuntimeDbWeight

/-- `Perbill`: parts per billion. -/
structure Perbill where
  parts : Nat
  parts_le : parts ≤ 1000000000

/-- `Perbill::mul_floor`. -/
def Perbill.mulFloor (p : Perbill) (n : Nat) : Nat := p.parts * n / 1000000000

theorem Perbill.mulFloor_le (p : Perbill) (n : Nat) : p.mulFloor n ≤ n :=
  Nat.div_le_of_le_mul (Nat.mul_le_mul_right n p.parts_le)

end AutomationPrice

import AutomationPrice.Types
import Mathlib.Data.Nat.Digits

/-! `generate_task_id` and the injectivity of its `"{block}-{extrinsic}-{event}"` format:
decimal numerals contain no `-`, so the first two dashes of an id split it back into its
three numerals, and a numeral determines its number. -/

namespace AutomationPrice

/-- The decimal digits of `n`, most significant first, as `{}` prints an unsigned integer. -/
def decimalDigits (n : Nat) : List Nat := if n = 0 then [0] else (Nat.digits 10 n).reverse

def asciiDigit (d : Nat) : UInt8 := UInt8.ofNat (48 + d)

/-- `format!("{}", n).as_bytes()` for an unsigned integer. -/
def decimalBytes (n : Nat) : Bytes := (decimalDigits n).map asciiDigit

def dash : UInt8 := 45

/-- What `generate_task_id` reads from `frame_system`. -/
structure ExtrinsicContext where
  blockNumber : Nat
  extrinsicIndex : Option Nat
  eventCount : Nat

/-- `generate_task_id`. A block number that does not fit in a `u64` and a missing extrinsic
index are both printed as `0`. -/
def generateTaskId (ctx : ExtrinsicContext) : TaskId :=
  let currentBlockNumber := if ctx.blockNumber < 2 ^ 64 then ctx.blockNumber else 0
  let txId := ctx.extrinsicIndex.getD 0
  decimalBytes currentBlockNumber ++ dash :: (decimalBytes txId ++ dash :: decimalBytes ctx.eventCount)

example : generateTaskId ⟨12, some 3, 40⟩ = [49, 50, 45, 51, 45, 52, 48] := by
  simp [generateTaskId, decimalBytes, decimalDigits, dash]; decide

theorem decimalDigits_lt {n d : Nat} (h : d ∈ decimalDigits n) : d < 10 := by
  unfold decimalDigits at h
  split at h
  · simp_all
  · exact Nat.digits_lt_base (by norm_num) (List.mem_reverse.mp h)

theorem decimalDigits_injective {n m : Nat} (h : decimalDigits n = decimalDigits m) : n = m := by
  have zero_of_digits {k : Nat} (hk : Nat.digits 10 k = [0]) : k = 0 := by
    rw [← Nat.ofDigits_digits 10 k, hk]; rfl
  unfold decimalDigits at h
  split at h <;> split at h
  · omega
  · exact (‹¬m = 0› (zero_of_digits (List.reverse_eq_cons_iff.mp h.symm))).elim
  · exact (‹¬n = 0› (zero_of_digits (List.reverse_eq_cons_iff.mp h))).elim
  · exact Nat.digits_inj_iff.mp (List.reverse_injective h)

theorem asciiDigit_toNat {d : Nat} (h : d < 10) : (asciiDigit d).toNat = 48 + d :=
  UInt8.toNat_ofNat_of_lt (by simp [UInt8.size]; omega)

theorem decimalBytes_decode (n : Nat) :
    (decimalBytes n).map (fun b => b.toNat - 48) = decimalDigits n := by
  rw [decimalBytes, List.map_map]
  conv_rhs => rw [← List.map_id (decimalDigits n)]
  exact List.map_congr_left fun d hd => by
    simp only [Function.comp, asciiDigit_toNat (decimalDigits_lt hd), id]; omega

theorem decimalBytes_of_lt_ten {n : Nat} (h : n < 10) : decimalBytes n = [asciiDigit n] := by
  rcases Nat.eq_zero_or_pos n with rfl | hn
  · rfl
  · simp [decimalBytes, decimalDigits, hn.ne', Nat.digits_of_lt 10 n hn.ne' h]

theorem generateTaskId_block_one {x : Nat} (hx : x < 10) :
    generateTaskId ⟨1, some x, x⟩ = [asciiDigit 1, dash, asciiDigit x, dash, asciiDigit x] := by
  simp [generateTaskId, decimalBytes_of_lt_ten hx, decimalBytes_of_lt_ten (by norm_num : 1 < 10)]

theorem decimalBytes_injective {n m : Nat} (h : decimalBytes n = decimalBytes m) : n = m :=
  decimalDigits_injective (by rw [← decimalBytes_decode, h, decimalBytes_decode])

theorem dash_not_mem_decimalBytes (n : Nat) : dash ∉ decimalBytes n := by
  intro h
  obtain ⟨d, hd, hdash⟩ := List.mem_map.mp h
  have := congrArg UInt8.toNat hdash
  rw [asciiDigit_toNat (decimalDigits_lt hd)] at this
  have : dash.toNat = 45 := rfl
  omega

theorem append_dash_inj {a b c d : Bytes} (ha : dash ∉ a) (hc : dash ∉ c)
    (h : a ++ dash :: b = c ++ dash :: d) : a = c ∧ b = d := by
  have before_dash {x : Bytes} (y : Bytes) (hx : dash ∉ x) :
      (x ++ dash :: y).takeWhile (· ≠ dash) = x := by
    rw [List.takeWhile_append_of_pos fun e he => by simpa using ne_of_mem_of_not_mem he hx]
    simp
  obtain rfl : a = c := by rw [← before_dash b ha, h, before_dash d hc]
  exact ⟨rfl, by simpa using h⟩

/-- Two extrinsics with a `u64` block number and an extrinsic index get the same task id only
in the same block, at the same extrinsic index and the same event count. -/
theorem generateTaskId_injective {b₁ b₂ x₁ x₂ e₁ e₂ : Nat} (hb₁ : b₁ < 2 ^ 64) (hb₂ : b₂ < 2 ^ 64)
    (h : generateTaskId ⟨b₁, some x₁, e₁⟩ = generateTaskId ⟨b₂, some x₂, e₂⟩) :
    b₁ = b₂ ∧ x₁ = x₂ ∧ e₁ = e₂ := by
  simp only [generateTaskId, if_pos hb₁, if_pos hb₂, Option.getD_some] at h
  obtain ⟨hb, h⟩ := append_dash_inj (dash_not_mem_decimalBytes _) (dash_not_mem_decimalBytes _) h
  obtain ⟨hx, he⟩ := append_dash_inj (dash_not_mem_decimalBytes _) (dash_not_mem_decimalBytes _) h
  exact ⟨decimalBytes_injective hb, decimalBytes_injective hx, decimalBytes_injective he⟩

/-- Block 1 at extrinsic 23 and block 12 at extrinsic 3, both at event count 4, print the same
digits in the same order; the dashes keep their ids apart. -/
theorem generateTaskId_separates_dash_positions :
    generateTaskId ⟨1, some 23, 4⟩ ≠ generateTaskId ⟨12, some 3, 4⟩ := fun h =>
  absurd (generateTaskId_injective (by norm_num) (by norm_num) h).1 (by decide)

end AutomationPrice

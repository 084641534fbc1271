/-
  Blocks of addresses: the numbers of `w` bits that share their first `len` bits with a base, and
  filters that refuse the addresses of some blocks and exempt those of others.

  Proved: a block is an interval (`mem_iff_range`) and a mask test (`mem_iff_mask`), and gives
  blocks of longer addresses (`mem_widen`, `mem_under`). Without exemptions a filter
  refuses just its blocks (`admits_iff_of_no_exempt`), and with more of them it lets more through
  (`admits_of_relaxes`); a filter under a prefix decides on the rest (`admits_under`).
-/
import Mathlib.Data.List.Forall2
import Mathlib.Data.Nat.Bitwise

namespace AddressBlocks

variable {w v : Nat}

/-! ## Blocks -/

/-- The addresses of `w` bits that agree with `base` on their first `len` bits. -/
structure Block (w : Nat) where
  base : Nat
  len : Nat
  len_le : len ≤ w := by decide
  base_lt : base < 2 ^ w := by decide
  aligned : base % 2 ^ (w - len) = 0 := by decide

namespace Block

/-- The number of addresses. -/
def size (b : Block w) : Nat := 2 ^ (w - b.len)

/-- The bits that the addresses share. -/
def mask (b : Block w) : Nat := (2 ^ b.len - 1) <<< (w - b.len)

/-- The address lies in the block. -/
def Mem (b : Block w) (x : Nat) : Prop := x / b.size = b.base / b.size

instance (b : Block w) (x : Nat) : Decidable (b.Mem x) :=
  inferInstanceAs (Decidable (x / b.size = b.base / b.size))

theorem size_pos (b : Block w) : 0 < b.size := Nat.two_pow_pos _

theorem base_eq (b : Block w) : b.base / b.size * b.size = b.base :=
  Nat.div_mul_cancel (Nat.dvd_of_mod_eq_zero b.aligned)

/-- **Intervals.** -/
theorem mem_iff_range {b : Block w} {x : Nat} :
    b.Mem x ↔ b.base ≤ x ∧ x < b.base + b.size := by
  have hbase := b.base_eq
  unfold Mem
  rw [Nat.div_eq_iff b.size_pos, hbase]
  have hpos := b.size_pos
  omega

/-- A block of one address. -/
theorem mem_iff_eq {b : Block w} (h : b.len = w) {x : Nat} : b.Mem x ↔ x = b.base := by
  have hsize : b.size = 1 := by
    unfold size
    rw [h, Nat.sub_self, Nat.pow_zero]
  rw [mem_iff_range, hsize]
  omega

/-- The high bits of a number, by a mask. -/
theorem and_mask {n k x : Nat} (hx : x < 2 ^ (n + k)) :
    x &&& (2 ^ n - 1) <<< k = x / 2 ^ k * 2 ^ k := by
  apply Nat.eq_of_testBit_eq
  intro i
  rw [← Nat.shiftLeft_eq, ← Nat.shiftRight_eq_div_pow, Nat.testBit_and, Nat.testBit_shiftLeft,
    Nat.testBit_shiftLeft, Nat.testBit_two_pow_sub_one, Nat.testBit_shiftRight]
  by_cases hk : k ≤ i
  · have hi : k + (i - k) = i := by omega
    rw [hi]
    by_cases hn : i - k < n
    · simp [hk, hn]
    · have hbit : x.testBit i = false := by
        apply Nat.testBit_lt_two_pow
        exact Nat.lt_of_lt_of_le hx (Nat.pow_le_pow_right (by decide) (by omega))
      simp [hbit]
  · simp [hk]

/-- **Mask tests.** -/
theorem mem_iff_mask {b : Block w} {x : Nat} (hx : x < 2 ^ w) :
    b.Mem x ↔ x &&& b.mask = b.base := by
  have hlen : b.len + (w - b.len) = w := Nat.add_sub_cancel' b.len_le
  have hand : x &&& b.mask = x / b.size * b.size := and_mask (by rw [hlen]; exact hx)
  have hbase := b.base_eq
  rw [hand]
  unfold Mem
  constructor
  · intro h
    rw [h, hbase]
  · intro h
    rw [← h, Nat.mul_div_cancel _ b.size_pos]

/-! ## Longer addresses -/

/-- The longer addresses whose first bits lie in the block. -/
def widen (b : Block w) (v : Nat) : Block (w + v) where
  base := b.base * 2 ^ v
  len := b.len
  len_le := Nat.le_add_right_of_le b.len_le
  base_lt := by
    rw [Nat.pow_add]
    exact Nat.mul_lt_mul_of_pos_right b.base_lt (Nat.two_pow_pos v)
  aligned := by
    have hsub : w + v - b.len = (w - b.len) + v := by
      have h := b.len_le
      omega
    rw [hsub, Nat.pow_add, Nat.mul_mod_mul_right, b.aligned, Nat.zero_mul]

theorem size_widen (b : Block w) (v : Nat) : (b.widen v).size = 2 ^ v * b.size := by
  have hsub : w + v - b.len = v + (w - b.len) := by
    have h := b.len_le
    omega
  unfold size widen
  rw [hsub, Nat.pow_add]

theorem mem_widen {b : Block w} {hi lo : Nat} (hlo : lo < 2 ^ v) :
    (b.widen v).Mem (hi * 2 ^ v + lo) ↔ b.Mem hi := by
  have hpos : 0 < 2 ^ v := Nat.two_pow_pos v
  have hx : (hi * 2 ^ v + lo) / 2 ^ v = hi := by
    rw [Nat.mul_comm, Nat.mul_add_div hpos, Nat.div_eq_of_lt hlo, Nat.add_zero]
  have hbase : (b.widen v).base / 2 ^ v = b.base := Nat.mul_div_cancel _ hpos
  unfold Mem
  rw [size_widen, ← Nat.div_div_eq_div_mul, ← Nat.div_div_eq_div_mul, hx, hbase]

/-- The longer addresses that begin with `top` and whose last bits lie in the block. -/
def under (top : Nat) (b : Block w) (htop : top < 2 ^ v := by decide) : Block (v + w) where
  base := top * 2 ^ w + b.base
  len := v + b.len
  len_le := Nat.add_le_add_left b.len_le v
  base_lt := by
    have hbase := b.base_lt
    have hmul : (top + 1) * 2 ^ w ≤ 2 ^ v * 2 ^ w := Nat.mul_le_mul_right _ htop
    rw [Nat.pow_add]
    rw [Nat.add_mul, Nat.one_mul] at hmul
    omega
  aligned := by
    have hsub : v + w - (v + b.len) = w - b.len := by omega
    have hpow : 2 ^ w = 2 ^ (w - b.len) * 2 ^ b.len := by
      rw [← Nat.pow_add, Nat.sub_add_cancel b.len_le]
    rw [hsub, hpow, Nat.mul_left_comm, Nat.mul_add_mod, b.aligned]

/-- The last address has `w` bits too. -/
theorem base_add_size_le (b : Block w) : b.base + b.size ≤ 2 ^ w := by
  have hpow : 2 ^ w = 2 ^ b.len * b.size := by
    unfold size
    rw [← Nat.pow_add, Nat.add_sub_cancel' b.len_le]
  have hlt : b.base / b.size < 2 ^ b.len := by
    rw [Nat.div_lt_iff_lt_mul b.size_pos, ← hpow]
    exact b.base_lt
  have hmul : (b.base / b.size + 1) * b.size ≤ 2 ^ b.len * b.size := Nat.mul_le_mul_right _ hlt
  rw [Nat.add_mul, b.base_eq, Nat.one_mul, ← hpow] at hmul
  exact hmul

theorem mem_under {b : Block w} {top hi lo : Nat} {htop : top < 2 ^ v} (hlo : lo < 2 ^ w) :
    (b.under top htop).Mem (hi * 2 ^ w + lo) ↔ hi = top ∧ b.Mem lo := by
  have hsize : (b.under top htop).size = b.size := by
    have hsub : v + w - (v + b.len) = w - b.len := by omega
    unfold size under
    rw [hsub]
  have hend := b.base_add_size_le
  have hbase : (b.under top htop).base = top * 2 ^ w + b.base := rfl
  rw [mem_iff_range, mem_iff_range, hsize, hbase]
  constructor
  · rintro ⟨hle, hlt⟩
    have hhi : hi < top + 1 := by
      apply Nat.lt_of_mul_lt_mul_right (a := 2 ^ w)
      rw [Nat.add_mul, Nat.one_mul]
      omega
    have htop' : top < hi + 1 := by
      apply Nat.lt_of_mul_lt_mul_right (a := 2 ^ w)
      rw [Nat.add_mul, Nat.one_mul]
      omega
    have heq : hi = top := by omega
    rw [heq] at hle hlt
    exact ⟨heq, by omega, by omega⟩
  · rintro ⟨rfl, hle, hlt⟩
    omega

end Block

/-! ## Filters -/

/-- The address lies in one of the blocks. -/
def Covered (blocks : List (Block w)) (x : Nat) : Prop := ∃ b ∈ blocks, b.Mem x

instance (blocks : List (Block w)) (x : Nat) : Decidable (Covered blocks x) :=
  inferInstanceAs (Decidable (∃ b ∈ blocks, b.Mem x))

theorem covered_singleton {b : Block w} {x : Nat} : Covered [b] x ↔ b.Mem x := by
  simp [Covered]

theorem covered_flatMap {α : Type} {l : List α} {f : α → List (Block w)} {x : Nat} :
    Covered (l.flatMap f) x ↔ ∃ a ∈ l, Covered (f a) x := by
  simp only [Covered, List.mem_flatMap]
  constructor
  · rintro ⟨b, ⟨a, ha, hb⟩, hx⟩
    exact ⟨a, ha, b, hb, hx⟩
  · rintro ⟨a, ha, b, hb, hx⟩
    exact ⟨b, ⟨a, ha, hb⟩, hx⟩

/-- A rule of a filter: its addresses are let through or refused. -/
structure Rule (w : Nat) where
  blocks : List (Block w)
  exempt : Bool

/-- The first rule that covers the address decides; an address without one is let through. -/
def admits : List (Rule w) → Nat → Bool
  | [], _ => true
  | r :: rules, x => if Covered r.blocks x then r.exempt else admits rules x

/-- The blocks of the rules. -/
def blocks (rules : List (Rule w)) : List (Block w) := rules.flatMap Rule.blocks

/-- **Without exemptions** the addresses outside all blocks are let through. -/
theorem admits_iff_of_no_exempt {rules : List (Rule w)} (h : ∀ r ∈ rules, r.exempt = false)
    (x : Nat) : admits rules x = true ↔ ¬ Covered (blocks rules) x := by
  unfold blocks
  rw [covered_flatMap]
  induction rules with
  | nil => simp [admits]
  | cons r rules ih =>
    have hr := h r List.mem_cons_self
    have ih := ih fun r hr => h r (List.mem_cons_of_mem _ hr)
    rw [admits]
    split
    · next hx => simp [hr, hx]
    · next hx => simp [hx, ih]

/-- The same rules, with some exemptions more. -/
def Relaxes (rules rules' : List (Rule w)) : Prop :=
  List.Forall₂ (fun r r' => r.blocks = r'.blocks ∧ (r.exempt = true → r'.exempt = true))
    rules rules'

/-- **More exemptions** refuse no address that was let through. -/
theorem admits_of_relaxes {rules rules' : List (Rule w)} (h : Relaxes rules rules') {x : Nat}
    (hx : admits rules x = true) : admits rules' x = true := by
  induction h with
  | nil => rfl
  | cons hrule _ ih =>
    obtain ⟨hblocks, hexempt⟩ := hrule
    rw [admits, hblocks] at hx
    rw [admits]
    split at hx
    · next hcover =>
      rw [if_pos hcover]
      exact hexempt hx
    · next hcover =>
      rw [if_neg hcover]
      exact ih hx

theorem relaxes_refl (rules : List (Rule w)) : Relaxes rules rules :=
  List.forall₂_same.mpr fun _ _ => ⟨rfl, id⟩

/-- A rule for the longer addresses that begin with `top`. -/
def Rule.under (top : Nat) (r : Rule w) (htop : top < 2 ^ v := by decide) : Rule (v + w) where
  blocks := r.blocks.map fun b => b.under top htop
  exempt := r.exempt

theorem relaxes_under {rules rules' : List (Rule w)} {top : Nat} {htop : top < 2 ^ v}
    (h : Relaxes rules rules') :
    Relaxes (rules.map fun r => r.under top htop) (rules'.map fun r => r.under top htop) := by
  refine List.rel_map (fun r r' hrule => ⟨?_, hrule.2⟩) h
  show r.blocks.map _ = r'.blocks.map _
  rw [hrule.1]

/-- **Embedding.** Rules for the addresses that begin with `top` decide on the last bits of these
and let the others through. -/
theorem admits_under {rules : List (Rule w)} {top hi lo : Nat} {htop : top < 2 ^ v}
    (hlo : lo < 2 ^ w) :
    admits (rules.map fun r => r.under top htop) (hi * 2 ^ w + lo) =
      (decide (hi ≠ top) || admits rules lo) := by
  have hcover : ∀ r : Rule w, Covered (r.under top htop).blocks (hi * 2 ^ w + lo) ↔
      hi = top ∧ Covered r.blocks lo := by
    intro r
    simp only [Covered, Rule.under, List.mem_map, exists_exists_and_eq_and, Block.mem_under hlo]
    constructor
    · rintro ⟨b, hb, hhi, hx⟩
      exact ⟨hhi, b, hb, hx⟩
    · rintro ⟨hhi, b, hb, hx⟩
      exact ⟨b, hb, hhi, hx⟩
  induction rules with
  | nil => simp [admits]
  | cons r rules ih =>
    rw [List.map_cons, admits, admits, ih]
    by_cases hr : hi = top ∧ Covered r.blocks lo
    · rw [if_pos ((hcover r).mpr hr), if_pos hr.2]
      simp [hr.1, Rule.under]
    · rw [if_neg (mt (hcover r).mp hr)]
      by_cases hhi : hi = top
      · rw [if_neg fun hlow => hr ⟨hhi, hlow⟩]
      · simp [hhi]

end AddressBlocks

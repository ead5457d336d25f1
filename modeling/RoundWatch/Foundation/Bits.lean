import Mathlib.Algebra.Order.Ring.Nat
import Mathlib.Data.List.Basic
import Mathlib.Tactic.Ring

/-!
# Bits

Numbers as lists of bits, the highest first, and lists that are cut into pieces of one
length.  Cutting and joining undo each other (`cut_flatten_append`, `flatten_cut`), and so do
writing a number and reading it (`toNat_ofNat`, `ofNat_toNat`).
-/

namespace Bits

/-! ## Numbers -/

/-- The lowest bits of a number. -/
def ofNat : ℕ → ℕ → List Bool
  | 0, _ => []
  | w + 1, n => decide (n / 2 ^ w % 2 = 1) :: ofNat w n

def toNat : List Bool → ℕ
  | [] => 0
  | b :: rest => b.toNat * 2 ^ rest.length + toNat rest

@[simp] theorem length_ofNat (w n : ℕ) : (ofNat w n).length = w := by
  induction w with
  | zero => rfl
  | succ w ih => rw [ofNat, List.length_cons, ih]

theorem toNat_lt (bits : List Bool) : toNat bits < 2 ^ bits.length := by
  induction bits with
  | nil => simp [toNat]
  | cons b rest ih =>
    rw [toNat, List.length_cons, pow_succ]
    cases b with
    | false =>
      simp only [Bool.toNat_false, zero_mul, zero_add]
      omega
    | true =>
      simp only [Bool.toNat_true, one_mul]
      omega

theorem toNat_ofNat (w n : ℕ) : toNat (ofNat w n) = n % 2 ^ w := by
  induction w with
  | zero => simp [ofNat, toNat, Nat.mod_one]
  | succ w ih =>
    have hbit : (decide (n / 2 ^ w % 2 = 1)).toNat = n / 2 ^ w % 2 := by
      obtain h | h : n / 2 ^ w % 2 = 0 ∨ n / 2 ^ w % 2 = 1 := by omega
      · simp [h]
      · simp [h]
    rw [ofNat, toNat, length_ofNat, ih, hbit, Nat.mod_pow_succ]
    ring

/-- Higher bits do not show. -/
theorem ofNat_congr {w m n : ℕ} (h : m % 2 ^ w = n % 2 ^ w) : ofNat w m = ofNat w n := by
  induction w with
  | zero => rfl
  | succ w ih =>
    have hhigh (k : ℕ) : k / 2 ^ w % 2 = k % 2 ^ (w + 1) / 2 ^ w := by
      rw [pow_succ, Nat.mod_mul_right_div_self]
    have hlow : m % 2 ^ w = n % 2 ^ w := by
      have hdvd : 2 ^ w ∣ 2 ^ (w + 1) := Dvd.intro _ (pow_succ 2 w).symm
      rw [← Nat.mod_mod_of_dvd m hdvd, h, Nat.mod_mod_of_dvd n hdvd]
    rw [ofNat, ofNat, hhigh m, hhigh n, h, ih hlow]

theorem ofNat_toNat (bits : List Bool) : ofNat bits.length (toNat bits) = bits := by
  induction bits with
  | nil => rfl
  | cons b rest ih =>
    have hlt := toNat_lt rest
    have hpos : 0 < 2 ^ rest.length := Nat.two_pow_pos _
    have hhead : (b.toNat * 2 ^ rest.length + toNat rest) / 2 ^ rest.length % 2 = b.toNat := by
      rw [Nat.add_comm, Nat.add_mul_div_right _ _ hpos, Nat.div_eq_of_lt hlt, Nat.zero_add]
      cases b <;> rfl
    have hrest : ofNat rest.length (b.toNat * 2 ^ rest.length + toNat rest) =
        ofNat rest.length (toNat rest) := ofNat_congr (Nat.mul_add_mod' _ _ _)
    rw [List.length_cons, ofNat, toNat, hhead, hrest, ih]
    cases b <;> rfl

theorem toNat_eq_zero_iff {bits : List Bool} : toNat bits = 0 ↔ ∀ b ∈ bits, b = false := by
  induction bits with
  | nil => simp [toNat]
  | cons b rest ih =>
    have hpos : 0 < 2 ^ rest.length := Nat.two_pow_pos _
    cases b with
    | false => simp [toNat, ih]
    | true =>
      simp only [toNat, Bool.toNat_true, one_mul, List.mem_cons, forall_eq_or_imp]
      constructor
      · intro h
        omega
      · rintro ⟨h, -⟩
        cases h

/-! ## Pieces -/

section Cut

variable {α : Type*}

/-- The first pieces of a list, of length `k` each. -/
def cut (k : ℕ) : ℕ → List α → List (List α)
  | 0, _ => []
  | m + 1, l => l.take k :: cut k m (l.drop k)

@[simp] theorem length_cut (k m : ℕ) (l : List α) : (cut k m l).length = m := by
  induction m generalizing l with
  | zero => rfl
  | succ m ih => rw [cut, List.length_cons, ih]

theorem flatten_cut (k m : ℕ) (l : List α) : (cut k m l).flatten = l.take (k * m) := by
  induction m generalizing l with
  | zero => simp [cut]
  | succ m ih => rw [cut, List.flatten_cons, ih, Nat.mul_succ, Nat.add_comm, List.take_add]

theorem length_of_mem_cut {k m : ℕ} {l piece : List α} (hl : k * m ≤ l.length)
    (h : piece ∈ cut k m l) : piece.length = k := by
  induction m generalizing l with
  | zero => cases h
  | succ m ih =>
    rw [Nat.mul_succ] at hl
    rw [cut, List.mem_cons] at h
    obtain rfl | h := h
    · rw [List.length_take]
      omega
    · exact ih (by rw [List.length_drop]; omega) h

/-- Pieces of one length are found again in what they were joined to. -/
theorem cut_flatten_append {k : ℕ} {pieces : List (List α)} (h : ∀ p ∈ pieces, p.length = k)
    (rest : List α) : cut k pieces.length (pieces.flatten ++ rest) = pieces := by
  induction pieces with
  | nil => rfl
  | cons p pieces ih =>
    have hp := h p (List.mem_cons_self ..)
    have htake : (p ++ (pieces.flatten ++ rest)).take k = p := by rw [← hp, List.take_left]
    have hdrop : (p ++ (pieces.flatten ++ rest)).drop k = pieces.flatten ++ rest := by
      rw [← hp, List.drop_left]
    rw [List.length_cons, List.flatten_cons, List.append_assoc, cut, htake, hdrop,
      ih fun q hq => h q (List.mem_cons_of_mem _ hq)]

end Cut

end Bits

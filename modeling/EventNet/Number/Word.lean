import EventNet.Number.Double

/-!
Sums in 64 bits.

Counts and versions are signed integers of 64 bits.  They are written as integers here, and a sum of
them goes through `wrap`: what does not fit wraps around.  So a sum of 64 bits is the exact one where
that fits, and only there (`wrap_eq_iff`).  In a chain of sums it makes no difference whether each of them
is wrapped or only the last (`wrap_wrap_add`, `sum_eq_wrap`).
-/

namespace EventNet.Word

/-- Whether an integer is one of 64 bits. -/
def Fits (n : Int) : Prop :=
  Double.minInt64 ≤ n ∧ n ≤ Double.maxInt64

instance (n : Int) : Decidable (Fits n) :=
  inferInstanceAs (Decidable (_ ∧ _))

/-- How many integers of 64 bits there are: 2 ^ 64. -/
def size : Nat := 18446744073709551616

/-- The integer of 64 bits that differs by a multiple of `size`. -/
def wrap (n : Int) : Int :=
  n.bmod size

/-- The sum of some integers, wrapped at each step. -/
def sum (ns : List Int) : Int :=
  ns.foldl (fun total n => wrap (total + n)) 0

/-- A sum of 64 bits whose exact value is `total`. -/
structure IsSum (n total : Int) : Prop where
  wrapped : n = wrap total
  exact_iff : n = total ↔ Fits total

theorem fits_zero : Fits 0 := by
  decide

theorem fits_wrap (n : Int) : Fits (wrap n) := by
  have hlow := Int.le_bmod (x := n) (m := size) (by decide)
  have hhigh := Int.bmod_lt (x := n) (m := size) (by decide)
  unfold Fits wrap Double.minInt64 Double.maxInt64
  unfold size at *
  omega

theorem wrap_of_fits {n : Int} (h : Fits n) : wrap n = n := by
  unfold Fits Double.minInt64 Double.maxInt64 at h
  unfold wrap size
  exact Int.bmod_eq_of_le (by omega) (by omega)

theorem wrap_eq_iff {n : Int} : wrap n = n ↔ Fits n := by
  constructor
  · intro h
    rw [← h]
    exact fits_wrap n
  · exact wrap_of_fits

theorem isSum_wrap (total : Int) : IsSum (wrap total) total :=
  ⟨rfl, wrap_eq_iff⟩

/-- Of what is not below zero and fits 64 bits without a sign, only what fits with a sign stays so. -/
theorem wrap_nonneg_iff {n : Int} (h : 0 ≤ n) (hn : n < size) : 0 ≤ wrap n ↔ Fits n := by
  constructor
  · intro hw
    have hmod : n.bmod size % (size : Int) = n % (size : Int) := Int.bmod_emod
    have hfits := fits_wrap n
    unfold Fits wrap Double.minInt64 Double.maxInt64 at *
    unfold size at *
    omega
  · intro hfits
    rwa [wrap_of_fits hfits]

/-- What is wrapped before a sum makes no difference after it. -/
theorem wrap_wrap_add (n d : Int) : wrap (wrap n + d) = wrap (n + d) :=
  Int.bmod_add_bmod

/-- Integers that wrap alike still do when the same is added to both. -/
theorem wrap_add_congr {n k : Int} (h : wrap n = wrap k) (d : Int) : wrap (n + d) = wrap (k + d) := by
  rw [← wrap_wrap_add n, h, wrap_wrap_add]

/-- Wrapping at each step comes to wrapping the total. -/
theorem sum_eq_wrap (ns : List Int) : sum ns = wrap (ns.foldr (· + ·) 0) := by
  have hfold : ∀ total, Fits total →
      ns.foldl (fun total n => wrap (total + n)) total = wrap (total + ns.foldr (· + ·) 0) := by
    induction ns with
    | nil =>
        intro total htotal
        rw [List.foldr_nil, Int.add_zero, wrap_of_fits htotal, List.foldl_nil]
    | cons n rest ih =>
        intro total _
        rw [List.foldl_cons, ih _ (fits_wrap _), wrap_wrap_add, List.foldr_cons, Int.add_assoc]
  rw [sum, hfold 0 fits_zero, Int.zero_add]

end EventNet.Word

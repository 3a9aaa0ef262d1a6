import Mathlib.Data.Nat.ModEq

namespace Spacing

-- Times at least `gap` apart, oldest first; over several steps the gaps add up.
def Spaced (gap : Nat) (times : List Nat) : Prop :=
  ∀ i j (_ : i < j) (_ : j < times.length), times[i] + (j - i) * gap ≤ times[j]

-- Labels dealt out in turn from a range of `period` of them.
def Cyclic (base period : Nat) (labels : List Nat) : Prop :=
  ∀ i (_ : i < labels.length), labels[i] = base + i % period

theorem Spaced.nil : Spaced gap [] := by
  intro i j _ within
  simp at within

theorem Spaced.snoc (spaced : Spaced gap times) (later : ∀ last, times.getLast? = some last → last + gap ≤ next) :
    Spaced gap (times ++ [next]) := by
  intro i j before within
  rw [List.length_append,List.length_singleton] at within
  by_cases old : j < times.length
  · rw [List.getElem_append_left (by omega),List.getElem_append_left old]
    exact spaced i j before old
  · have newest : j = times.length := by omega
    subst newest
    rw [List.getElem_append_left before,List.getElem_concat_length rfl]
    have last := later times[times.length-1] (by rw [List.getLast?_eq_getElem?,List.getElem?_eq_getElem (by omega)])
    by_cases same : i = times.length - 1
    · subst same
      rw [Nat.sub_sub_self (by omega),Nat.one_mul]
      exact last
    · have chain := spaced i (times.length - 1) (by omega) (by omega)
      have one : times.length - i = times.length - 1 - i + 1 := by omega
      rw [one,Nat.add_mul,Nat.one_mul]
      omega

-- So many of them fit between two times.
theorem Spaced.length_le (spaced : Spaced gap times) (some : 0 < gap)
    (within : ∀ time ∈ times, low ≤ time ∧ time ≤ high) : times.length ≤ (high - low) / gap + 1 := by
  by_cases several : 1 < times.length
  · have across := spaced 0 (times.length - 1) (by omega) (by omega)
    have first := within times[0] (List.getElem_mem _)
    have last := within times[times.length-1] (List.getElem_mem _)
    have fits : (times.length - 1) * gap ≤ high - low := by
      rw [Nat.sub_zero] at across
      omega
    have := (Nat.le_div_iff_mul_le some).mpr fits
    omega
  · exact Nat.le_trans (Nat.le_of_not_lt several) (Nat.le_add_left 1 _)

theorem Cyclic.nil : Cyclic base period [] := by
  intro i within
  simp at within

theorem Cyclic.snoc (cyclic : Cyclic base period labels) (next : label = base + labels.length % period) :
    Cyclic base period (labels ++ [label]) := by
  intro i within
  rw [List.length_append,List.length_singleton] at within
  by_cases old : i < labels.length
  · rw [List.getElem_append_left old]
    exact cyclic i old
  · have newest : i = labels.length := by omega
    subst newest
    rw [List.getElem_concat_length rfl]
    exact next

theorem Cyclic.range (cyclic : Cyclic base period labels) (some : 0 < period) (within : i < labels.length) :
    base ≤ labels[i] ∧ labels[i] < base + period := by
  rw [cyclic i within]
  have := Nat.mod_lt i some
  omega

-- The same label comes back only after a whole period.
theorem Cyclic.apart (cyclic : Cyclic base period labels) (before : i < j) (within : j < labels.length)
    (same : labels[i] = labels[j]) : i + period ≤ j := by
  rw [cyclic i (by omega),cyclic j within] at same
  have turns : period ∣ j - i := (Nat.modEq_iff_dvd' (Nat.le_of_lt before)).mp (by unfold Nat.ModEq; omega)
  have whole := Nat.le_of_dvd (by omega) turns
  omega

theorem Spaced.reused (spaced : Spaced gap times) (before : i + period ≤ j) (some : 0 < period)
    (within : j < times.length) : times[i] + period * gap ≤ times[j] := by
  have total := spaced i j (by omega) within
  have more : period * gap ≤ (j - i) * gap := Nat.mul_le_mul_right gap (by omega)
  omega

end Spacing

import Mathlib.Data.List.Basic

-- A bounded first-in first-out buffer. The bound is a field, so a buffer that
-- holds more than its capacity cannot be built.
structure RingBuffer (α : Type u) where
  data : List α
  capacity : Nat
  bounded : data.length ≤ capacity
  deriving DecidableEq

namespace RingBuffer
variable {α : Type u}

def empty (capacity : Nat) : RingBuffer α := ⟨[],capacity,Nat.zero_le _⟩

def window (r : RingBuffer α) : Nat := r.capacity - r.data.length
def isEmpty (r : RingBuffer α) : Bool := r.data.isEmpty
def isFull (r : RingBuffer α) : Bool := r.window == 0

def clear (r : RingBuffer α) : RingBuffer α := ⟨[],r.capacity,Nat.zero_le _⟩

def dequeue (r : RingBuffer α) (n : Nat) : RingBuffer α :=
  ⟨r.data.drop n,r.capacity,Nat.le_trans (by simp) r.bounded⟩

-- What does not fit is not taken.
def enqueue (r : RingBuffer α) (items : List α) : RingBuffer α :=
  ⟨r.data ++ items.take r.window,r.capacity,by
    have := r.bounded
    simp only [List.length_append,List.length_take,window]
    omega⟩

-- The part of the stored (or of the free) positions that lies in one piece in
-- memory. It depends on where the buffer wraps, which `run` stands for: at
-- least one position when there is any.
def contiguous (run available : Nat) : Nat := min (max run 1) available

-- In-place access to the first `count` stored elements: the elements are
-- overwritten by `changed` and the first `n` of them leave the buffer.
def dequeueWith (r : RingBuffer α) (count n : Nat) (changed : List α) (same : changed.length = (r.data.take count).length) :
    RingBuffer α :=
  ⟨changed.drop n ++ r.data.drop count,r.capacity,by
    have := r.bounded
    simp only [List.length_append,List.length_drop,same,List.length_take]
    omega⟩

@[simp] theorem data_dequeue (r : RingBuffer α) (n : Nat) : (r.dequeue n).data = r.data.drop n := rfl
@[simp] theorem data_enqueue (r : RingBuffer α) (items : List α) :
    (r.enqueue items).data = r.data ++ items.take r.window := rfl

@[simp] theorem dequeue_zero (r : RingBuffer α) : r.dequeue 0 = r := by simp [dequeue]
@[simp] theorem enqueue_nil (r : RingBuffer α) : r.enqueue [] = r := by simp [enqueue]

theorem isFull_iff {r : RingBuffer α} : r.isFull = true ↔ r.data.length = r.capacity := by
  have := r.bounded
  simp only [isFull,window,beq_iff_eq]
  omega

theorem contiguous_le (run available : Nat) : contiguous run available ≤ available := Nat.min_le_right _ _

end RingBuffer

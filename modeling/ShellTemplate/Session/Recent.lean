namespace ShellTemplate

/-- The last entries of a sequence, oldest first, as many as there is room for. -/
structure Recent (α : Type) where
  capacity : Nat
  entries : List α := []
  capacity_pos : 0 < capacity
  length_le : entries.length ≤ capacity := by simp

namespace Recent

variable {α : Type}

/-- No entries yet, and room for one at least. -/
def ofCapacity (capacity : Nat) : Recent α where
  capacity := max capacity 1
  capacity_pos := by omega

def size (r : Recent α) : Nat :=
  r.entries.length

def latest? (r : Recent α) : Option α :=
  r.entries.getLast?

/-- Adds an entry; if there is no room left, the oldest one goes. -/
def push (r : Recent α) (entry : α) : Recent α where
  capacity := r.capacity
  entries := r.entries.drop (r.size + 1 - r.capacity) ++ [entry]
  capacity_pos := r.capacity_pos
  length_le := by
    have bound := r.length_le
    have positive := r.capacity_pos
    simp only [size, List.length_append, List.length_drop, List.length_cons, List.length_nil]
    omega

end Recent

end ShellTemplate

namespace ShellTemplate

/-- Puts an element into a list that is sorted by key, in place of one with the same key. -/
def insertSorted {α κ : Type} [LT κ] [DecidableLT κ] [DecidableEq κ] (key : α → κ) (x : α) :
    List α → List α
  | [] => [x]
  | y :: rest =>
    if key x = key y then x :: rest
    else if key x < key y then x :: y :: rest
    else y :: insertSorted key x rest

theorem mem_insertSorted {α κ : Type} [LT κ] [DecidableLT κ] [DecidableEq κ] {key : α → κ} {x y : α}
    {xs : List α} (member : y ∈ insertSorted key x xs) : y = x ∨ y ∈ xs := by
  induction xs with
  | nil => simpa [insertSorted] using member
  | cons z rest ih =>
    simp only [insertSorted] at member
    split at member
    · rcases List.mem_cons.1 member with same | later
      · exact Or.inl same
      · exact Or.inr (List.mem_cons_of_mem _ later)
    · split at member
      · exact List.mem_cons.1 member
      · rcases List.mem_cons.1 member with same | later
        · exact Or.inr (same ▸ List.mem_cons_self)
        · exact (ih later).imp_right (List.mem_cons_of_mem _)

/-- A list without two elements of one key, sorted by key. -/
structure SortedList (α : Type) (key : α → String) where
  toList : List α
  ordered : toList.Pairwise fun x y => key x < key y

namespace SortedList

variable {α : Type} {key : α → String}

theorem insertSorted_ordered (x : α) {xs : List α} (ordered : xs.Pairwise fun y z => key y < key z) :
    (insertSorted key x xs).Pairwise fun y z => key y < key z := by
  induction xs with
  | nil => simp [insertSorted]
  | cons y rest ih =>
    obtain ⟨head, tail⟩ := List.pairwise_cons.1 ordered
    simp only [insertSorted]
    split
    · rename_i same
      exact List.pairwise_cons.2 ⟨fun z member => same ▸ head z member, tail⟩
    · split
      · rename_i less
        refine List.pairwise_cons.2 ⟨fun z member => ?_, ordered⟩
        rcases List.mem_cons.1 member with rfl | later
        · exact less
        · exact String.lt_trans less (head z later)
      · rename_i differ above
        refine List.pairwise_cons.2 ⟨fun z member => ?_, ih tail⟩
        rcases mem_insertSorted member with rfl | later
        · exact Std.lt_of_le_of_ne (String.not_lt.1 above) (Ne.symm differ)
        · exact head z later

instance [DecidableEq α] : DecidableEq (SortedList α key) := fun a b =>
  decidable_of_iff (a.toList = b.toList)
    ⟨fun same => by cases a; cases b; simpa using same, fun same => by rw [same]⟩

def empty : SortedList α key :=
  ⟨[], .nil⟩

instance : EmptyCollection (SortedList α key) := ⟨empty⟩

instance : Inhabited (SortedList α key) := ⟨empty⟩

def insert (s : SortedList α key) (x : α) : SortedList α key :=
  ⟨insertSorted key x s.toList, insertSorted_ordered x s.ordered⟩

/-- Of elements with one key the last stays. -/
def ofList (xs : List α) : SortedList α key :=
  xs.foldl insert empty

end SortedList

/-- A set of names. -/
abbrev NameSet := SortedList String id

def NameSet.contains (s : NameSet) (name : String) : Bool :=
  s.toList.contains name

/-- Values by name. -/
abbrev Assignments := SortedList (String × String) Prod.fst

def Assignments.get? (s : Assignments) (name : String) : Option String :=
  s.toList.lookup name

end ShellTemplate

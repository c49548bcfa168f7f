namespace ShellTemplate.Text

/-- The number of bytes that the characters take in UTF-8. -/
def width : List Char → Nat
  | [] => 0
  | c :: rest => c.utf8Size + width rest

@[simp] theorem width_nil : width [] = 0 := rfl

@[simp] theorem width_cons (c : Char) (cs : List Char) : width (c :: cs) = c.utf8Size + width cs := rfl

theorem width_append (front back : List Char) : width (front ++ back) = width front + width back := by
  induction front with
  | nil => simp
  | cons c rest ih => simp only [List.cons_append, width_cons, ih]; omega

/-- What follows the first `count` bytes; nothing if that point is inside a character or past the end. -/
def dropBytes? : Nat → List Char → Option (List Char)
  | 0, cs => some cs
  | _ + 1, [] => none
  | count + 1, c :: rest =>
    if c.utf8Size ≤ count + 1 then dropBytes? (count + 1 - c.utf8Size) rest else none

theorem dropBytes?_width (front back : List Char) :
    dropBytes? (width front) (front ++ back) = some back := by
  induction front with
  | nil => cases back <;> rfl
  | cons c rest ih =>
    have positive := c.utf8Size_pos
    rw [width_cons, List.cons_append]
    obtain ⟨count, total⟩ : ∃ count, c.utf8Size + width rest = count + 1 :=
      ⟨c.utf8Size + width rest - 1, by omega⟩
    rw [total, dropBytes?, if_pos (by omega), ← total, Nat.add_sub_cancel_left, ih]

end ShellTemplate.Text

import LiveData.Core.Text

/-!
# Lines of a text

A text is split behind its line ends. A carriage return with a line feed is one of them,
either alone is another, and a predicate adds further characters that end a line. With fewer
line ends there are no more lines, and the lines agree up to the first character on which the
line ends differ.
-/

namespace LiveData

variable {further more : Nat → Bool}

/-- A character in front of the first line. -/
def addToFirst (c : Nat) : List Str → List Str
  | [] => [[c]]
  | line :: lines => (c :: line) :: lines

/-- The lines of a text without their ends. -/
def splitLines (further : Nat → Bool) : Str → List Str
  | [] => []
  | c :: s =>
    if c = 13 ∧ s.head? = some 10 then splitLines further s
    else if c = 10 ∨ c = 13 ∨ further c = true then [] :: splitLines further s
    else addToFirst c (splitLines further s)

theorem length_addToFirst (c : Nat) (lines : List Str) :
    (addToFirst c lines).length = max 1 lines.length := by
  cases lines with
  | nil => rfl
  | cons line lines =>
    rw [addToFirst, List.length_cons, List.length_cons]
    omega

theorem take_addToFirst (c n : Nat) (lines : List Str) :
    (addToFirst c lines).take (n + 1) = addToFirst c (lines.take (n + 1)) := by
  cases lines with
  | nil => rw [List.take_nil, addToFirst, List.take_succ_cons, List.take_nil]
  | cons line lines => rfl

/-- The characters of the lines behind the added one are characters of the lines with it. -/
theorem forall_take_addToFirst {p : Nat → Prop} {c n : Nat} {lines : List Str}
    (h : ∀ line ∈ (addToFirst c lines).take (n + 1), ∀ d ∈ line, p d) :
    p c ∧ ∀ line ∈ lines.take (n + 1), ∀ d ∈ line, p d := by
  rw [take_addToFirst] at h
  cases htake : lines.take (n + 1) with
  | nil =>
    rw [htake] at h
    exact ⟨h [c] List.mem_cons_self c List.mem_cons_self, by simp⟩
  | cons first rest =>
    rw [htake, addToFirst, List.forall_mem_cons, List.forall_mem_cons] at h
    exact ⟨h.1.1, List.forall_mem_cons.mpr ⟨h.1.2, h.2⟩⟩

/-- More line ends give no fewer lines. -/
theorem length_splitLines_le (h : ∀ c, further c = true → more c = true) (s : Str) :
    (splitLines further s).length ≤ (splitLines more s).length := by
  induction s with
  | nil => exact le_refl 0
  | cons c s ih =>
    rw [splitLines, splitLines]
    split
    · exact ih
    · by_cases hfurther : c = 10 ∨ c = 13 ∨ further c = true
      · have hmore : c = 10 ∨ c = 13 ∨ more c = true :=
          hfurther.imp_right (Or.imp_right (h c))
        rw [if_pos hfurther, if_pos hmore, List.length_cons, List.length_cons]
        omega
      · rw [if_neg hfurther, length_addToFirst]
        split
        · rw [List.length_cons]
          omega
        · rw [length_addToFirst]
          omega

/-- Lines agree as long as no character ends only some of them. -/
theorem take_splitLines_eq {n : Nat} {s : Str}
    (h : ∀ line ∈ (splitLines further s).take n, ∀ c ∈ line, more c = false)
    (hmore : ∀ c, further c = true → more c = true) :
    (splitLines more s).take n = (splitLines further s).take n := by
  induction s generalizing n with
  | nil => rfl
  | cons c s ih =>
    cases n with
    | zero => rfl
    | succ n =>
      rw [splitLines] at h ⊢
      rw [splitLines]
      by_cases hpair : c = 13 ∧ s.head? = some 10
      · rw [if_pos hpair] at h
        rw [if_pos hpair, if_pos hpair]
        exact ih h
      · rw [if_neg hpair] at h
        rw [if_neg hpair, if_neg hpair]
        by_cases hend : c = 10 ∨ c = 13 ∨ further c = true
        · have hend' : c = 10 ∨ c = 13 ∨ more c = true :=
            hend.imp_right (Or.imp_right (hmore c))
          rw [if_pos hend, List.take_succ_cons] at h
          rw [if_pos hend, if_pos hend', List.take_succ_cons, List.take_succ_cons,
            ih (List.forall_mem_cons.mp h).2]
        · rw [if_neg hend] at h
          obtain ⟨hkeeps, hlines⟩ := forall_take_addToFirst h
          have hend' : ¬(c = 10 ∨ c = 13 ∨ more c = true) := by
            rw [hkeeps]
            exact fun hor => hend (hor.imp_right (Or.imp_right fun hfalse => by simp at hfalse))
          rw [if_neg hend, if_neg hend', take_addToFirst, take_addToFirst, ih hlines]

end LiveData

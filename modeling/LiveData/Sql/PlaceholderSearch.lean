import LiveData.Sql.Placeholders
import LiveData.Sql.Quoting

/-!
# The search for a placeholder

The search as an automaton that reads a text once. Quoting and the fixed parts of a template
move it no further than a single space, so that a placeholder of a filled template is one of
the texts in its holes, put next to each other.
-/

namespace LiveData.Sql

/-- How much of a placeholder has been read. -/
inductive Reading where
  | outside
  | percent
  | opened
  | named
  | closed
  | found
  deriving DecidableEq, Repr

namespace Reading

/-- One character further. -/
def next : Reading → Nat → Reading
  | .outside, c => if c = 37 then .percent else .outside
  | .percent, c => if c = 40 then .opened else if c = 37 then .percent else .outside
  | .opened, c => if c = 41 then .outside else .named
  | .named, c => if c = 41 then .closed else .named
  | .closed, c => if c = 115 then .found else if c = 37 then .percent else .outside
  | .found, _ => .found

/-- A text further. -/
def read (q : Reading) (s : Str) : Reading := s.foldl next q

@[simp] theorem read_nil (q : Reading) : q.read [] = q := rfl

@[simp] theorem read_cons (q : Reading) (c : Nat) (s : Str) :
    q.read (c :: s) = (q.next c).read s := rfl

theorem read_append (q : Reading) (s t : Str) : q.read (s ++ t) = (q.read s).read t :=
  List.foldl_append

@[simp] theorem read_found (s : Str) : found.read s = .found := by
  induction s with
  | nil => rfl
  | cons c s ih => exact ih

end Reading

/-! ## What the search finds -/

/-- What follows closes a placeholder whose name has begun. -/
def Closes (s : Str) : Prop := ∃ name after, s = name ++ 41 :: 115 :: after ∧ 41 ∉ name

/-- What follows is a name and closes its placeholder. -/
def NamesAndCloses (s : Str) : Prop := ∃ c rest, s = c :: rest ∧ c ≠ 41 ∧ Closes rest

/-- The placeholder that is being read, or a later one, stands in what follows. -/
def Reading.Reaches : Reading → Str → Prop
  | .outside, s => HasPlaceholder s
  | .percent, s => (∃ rest, s = 40 :: rest ∧ NamesAndCloses rest) ∨ HasPlaceholder s
  | .opened, s => NamesAndCloses s ∨ HasPlaceholder s
  | .named, s => Closes s ∨ HasPlaceholder s
  | .closed, s => s.head? = some 115 ∨ HasPlaceholder s
  | .found, _ => True

theorem closes_cons_iff {c : Nat} {s : Str} :
    Closes (c :: s) ↔ (c = 41 ∧ s.head? = some 115) ∨ (c ≠ 41 ∧ Closes s) := by
  constructor
  · rintro ⟨name, after, hs, hname⟩
    cases name with
    | nil =>
      obtain ⟨rfl, rfl⟩ := List.cons.inj hs
      exact Or.inl ⟨rfl, rfl⟩
    | cons d name =>
      obtain ⟨rfl, rfl⟩ := List.cons.inj hs
      rw [List.mem_cons, not_or] at hname
      exact Or.inr ⟨Ne.symm hname.1, name, after, rfl, hname.2⟩
  · rintro (⟨rfl, hs⟩ | ⟨hc, name, after, rfl, hname⟩)
    · obtain ⟨after, rfl⟩ := List.head?_eq_some_iff.mp hs
      exact ⟨[], after, rfl, List.not_mem_nil⟩
    · exact ⟨c :: name, after, rfl, by simp [Ne.symm hc, hname]⟩

theorem not_closes_nil : ¬Closes [] := by
  rintro ⟨name, after, h, -⟩
  simp at h

theorem NamesAndCloses.closes {s : Str} (h : NamesAndCloses s) : Closes s := by
  obtain ⟨c, rest, rfl, hc, hrest⟩ := h
  exact closes_cons_iff.mpr (Or.inr ⟨hc, hrest⟩)

theorem hasPlaceholder_cons_of_ne {c : Nat} (h : c ≠ 37) (s : Str) :
    HasPlaceholder (c :: s) ↔ HasPlaceholder s := by
  have hfront : 37 ∉ [c] := by simpa using Ne.symm h
  exact hasPlaceholder_append_iff hfront s

/-- A percent sign begins a placeholder, or the first one comes later. -/
theorem hasPlaceholder_percent_iff {s : Str} : HasPlaceholder (37 :: s) ↔
    (∃ rest, s = 40 :: rest ∧ NamesAndCloses rest) ∨ HasPlaceholder s := by
  rw [hasPlaceholder_cons_iff]
  refine or_congr_left ⟨?_, ?_⟩
  · rintro ⟨name, hname⟩
    obtain ⟨hne, hin, after, hs⟩ := placeholderName?_eq_some_iff.mp hname
    obtain ⟨c, tail, rfl⟩ := List.exists_cons_of_ne_nil hne
    rw [List.mem_cons, not_or] at hin
    obtain rfl : s = 40 :: c :: (tail ++ 41 :: 115 :: after) := by simpa [placeholder] using hs
    exact ⟨_, rfl, c, _, rfl, Ne.symm hin.1, tail, after, rfl, hin.2⟩
  · rintro ⟨rest, rfl, c, tail, rfl, hc, name, after, rfl, hname⟩
    refine ⟨c :: name, placeholderName?_eq_some_iff.mpr ⟨List.cons_ne_nil _ _, ?_, after, ?_⟩⟩
    · simp [Ne.symm hc, hname]
    · simp [placeholder]

/-- Inside a name a placeholder that begins is closed with the one being read. -/
theorem closes_or_hasPlaceholder_cons {c : Nat} (s : Str) :
    Closes s ∨ HasPlaceholder (c :: s) ↔ Closes s ∨ HasPlaceholder s := by
  by_cases hc : c = 37
  · subst hc
    rw [hasPlaceholder_percent_iff, ← or_assoc]
    refine or_congr_left (or_iff_left_of_imp ?_)
    rintro ⟨rest, rfl, h⟩
    exact closes_cons_iff.mpr (Or.inr ⟨by decide, h.closes⟩)
  · rw [hasPlaceholder_cons_of_ne hc]

namespace Reading

/-- Outside a placeholder only a percent sign leads on. -/
theorem reaches_next_outside (c : Nat) (s : Str) :
    (outside.next c).Reaches s ↔ HasPlaceholder (c :: s) := by
  by_cases hc : c = 37
  · subst hc
    exact hasPlaceholder_percent_iff.symm
  · rw [next, if_neg hc, hasPlaceholder_cons_of_ne hc]
    rfl

/-- One character further the same placeholders are in reach. -/
theorem reaches_cons (q : Reading) (c : Nat) (s : Str) :
    q.Reaches (c :: s) ↔ (q.next c).Reaches s := by
  cases q with
  | outside => exact (reaches_next_outside c s).symm
  | percent =>
    by_cases hc : c = 40
    · subst hc
      have hplaceholder := hasPlaceholder_cons_of_ne (by decide : 40 ≠ 37) s
      simp [Reaches, next, hplaceholder]
    · rw [Reaches, next, if_neg hc, ← next, reaches_next_outside]
      simp [hc]
  | opened =>
    by_cases hc : c = 41
    · subst hc
      have hplaceholder := hasPlaceholder_cons_of_ne (by decide : 41 ≠ 37) s
      simp [Reaches, next, NamesAndCloses, hplaceholder]
    · have hnames : NamesAndCloses (c :: s) ↔ Closes s := by simp [NamesAndCloses, hc]
      rw [Reaches, hnames, closes_or_hasPlaceholder_cons, next, if_neg hc, Reaches]
  | named =>
    by_cases hc : c = 41
    · subst hc
      have hplaceholder := hasPlaceholder_cons_of_ne (by decide : 41 ≠ 37) s
      simp [Reaches, next, closes_cons_iff, hplaceholder]
    · have hcloses : Closes (c :: s) ↔ Closes s := by simp [closes_cons_iff, hc]
      rw [Reaches, hcloses, closes_or_hasPlaceholder_cons, next, if_neg hc, Reaches]
  | closed =>
    by_cases hc : c = 115
    · subst hc
      simp [Reaches, next]
    · rw [Reaches, next, if_neg hc, ← next, reaches_next_outside]
      simp [hc]
  | found => exact Iff.rfl

theorem reaches_iff {s : Str} : ∀ q : Reading, q.Reaches s ↔ q.read s = .found := by
  induction s with
  | nil =>
    intro q
    cases q <;> simp [Reaches, NamesAndCloses, not_closes_nil, not_hasPlaceholder_nil]
  | cons c s ih =>
    intro q
    rw [reaches_cons, ih, read_cons]

end Reading

/-- The search finds a placeholder exactly when there is one. -/
theorem hasPlaceholder_iff {s : Str} : HasPlaceholder s ↔ Reading.outside.read s = .found :=
  Reading.reaches_iff .outside

/-! ## Quoted text -/

namespace Reading

/-- A space further: a percent sign and a parenthesis that closes lead no further. -/
def settle (q : Reading) : Reading := q.next 32

@[simp] theorem settle_settle (q : Reading) : q.settle.settle = q.settle := by cases q <;> rfl

@[simp] theorem settle_eq_found {q : Reading} : q.settle = .found ↔ q = .found := by
  cases q <;> decide

/-- The characters of which no placeholder is made, but for its name. -/
def IsPlain (c : Nat) : Prop := c ≠ 37 ∧ c ≠ 40 ∧ c ≠ 41 ∧ c ≠ 115

instance (c : Nat) : Decidable (IsPlain c) := inferInstanceAs (Decidable (_ ∧ _))

theorem next_of_isPlain {c : Nat} (h : IsPlain c) (q : Reading) : q.next c = q.settle := by
  obtain ⟨h37, h40, h41, h115⟩ := h
  cases q <;> simp [settle, next, h37, h40, h41, h115]

theorem settle_next {c : Nat} (h37 : c ≠ 37) (h41 : c ≠ 41) (q : Reading) :
    q.settle.next c = q.settle := by
  cases q <;> simp [settle, next, h37, h41]

/-- It begins with a plain character and has neither percent signs nor closing parentheses. -/
def isSpaceLike (s : Str) : Bool :=
  s.head?.any (decide <| IsPlain ·) && !s.contains 37 && !s.contains 41

theorem settle_read {s : Str} (h37 : 37 ∉ s) (h41 : 41 ∉ s) (q : Reading) :
    q.settle.read s = q.settle := by
  induction s with
  | nil => rfl
  | cons c s ih =>
    rw [List.mem_cons, not_or] at h37 h41
    rw [read_cons, settle_next (Ne.symm h37.1) (Ne.symm h41.1), ih h37.2 h41.2]

/-- Such a text leads no further than a space. -/
theorem read_of_isSpaceLike {s : Str} (h : isSpaceLike s = true) (q : Reading) :
    q.read s = q.settle := by
  simp only [isSpaceLike, Bool.and_eq_true, Option.any_eq_true, decide_eq_true_eq,
    Bool.not_eq_true', List.contains_eq_mem, decide_eq_false_iff_not] at h
  obtain ⟨⟨⟨c, hc, hplain⟩, h37⟩, h41⟩ := h
  obtain ⟨rest, rfl⟩ := List.head?_eq_some_iff.mp hc
  rw [List.mem_cons, not_or] at h37 h41
  rw [read_cons, next_of_isPlain hplain, settle_read h37.2 h41.2]

/-- Doubled characters lead no further than one of them. -/
theorem read_doubled {p : Nat → Bool} (hp : ∀ c, p c = true → IsPlain c) {s : Str} :
    ∀ q : Reading, q.read (doubled p s) = q.read s := by
  induction s with
  | nil => exact fun _ => rfl
  | cons c s ih =>
    intro q
    cases hc : p c with
    | true =>
      have hplain := hp c hc
      rw [doubled_cons_pos hc, read_cons, read_cons, read_cons, ih, next_of_isPlain hplain,
        next_of_isPlain hplain, settle_settle]
    | false => rw [doubled_cons_neg hc, read_cons, read_cons, ih]

/-- Quotes around a text lead no further than spaces. -/
theorem read_between {p : Nat → Bool} (hp : ∀ c, p c = true → IsPlain c) {quote : Nat}
    (hquote : IsPlain quote) (q : Reading) (s : Str) :
    q.read (quote :: (doubled p s ++ [quote])) = (q.settle.read s).settle := by
  rw [read_cons, read_append, next_of_isPlain hquote, read_doubled hp, read_cons, read_nil,
    next_of_isPlain hquote]

theorem isPlain_of_isEscaped (c : Nat) (h : isEscaped c = true) : IsPlain c := by
  simp only [isEscaped, Bool.or_eq_true, beq_iff_eq] at h
  rcases h with rfl | rfl <;> decide

theorem isPlain_of_beq {quote : Nat} (hquote : IsPlain quote) (c : Nat)
    (h : (c == quote) = true) : IsPlain c := by
  rwa [beq_iff_eq.mp h]

/-- A literal is searched as its text between spaces. -/
theorem read_quoteLiteral (q : Reading) (s : Str) :
    q.read (quoteLiteral s) = (q.settle.read s).settle := by
  unfold quoteLiteral
  split
  · rw [read_cons, read_between isPlain_of_isEscaped (by decide), next_of_isPlain (by decide),
      settle_settle]
  · exact read_between (isPlain_of_beq (by decide)) (by decide) q s

/-- So is an identifier in front of a space. -/
theorem settle_read_quoteIdent (keyword : Str → Bool) (q : Reading) (name : Str) :
    (q.settle.read (quoteIdent keyword name)).settle = (q.settle.read name).settle := by
  unfold quoteIdent
  split
  · rfl
  · rw [List.cons_append, read_between (isPlain_of_beq (by decide)) (by decide), settle_settle,
      settle_settle]

end Reading

end LiveData.Sql

import LiveData.Sql.TextClause

/-!
# Placeholders of compiled statements

A scanned statement is written as one text again, with a placeholder `%(name)s` for each of its
parameters, and this text is searched for placeholders to number them. One that stands in the
text the statement was made of is found as well, and what is found and names no parameter raises.
-/

namespace LiveData.Sql

/-- A placeholder. -/
def placeholder (name : Str) : Str := 37 :: 40 :: (name ++ [41, 115])

/-- The text of a scanned statement. -/
def rendered (pieces : List Piece) : Str :=
  pieces.flatMap fun
    | .char c => [c]
    | .bind name => placeholder name

@[simp] theorem rendered_append (p q : List Piece) :
    rendered (p ++ q) = rendered p ++ rendered q := by simp [rendered]

@[simp] theorem rendered_chars (s : Str) : rendered (chars s) = s := by
  simp [rendered, chars, List.flatMap_map]

/-- The name of the placeholder that begins with `c`, if one does: all up to the next closing
parenthesis, but not nothing. -/
def placeholderName? (c : Nat) (rest : Str) : Option Str :=
  let name := (spanRun (· != 41) (rest.drop 1)).1
  if c = 37 ∧ rest.head? = some 40 ∧ name ≠ [] ∧
      [41, 115] <+: (spanRun (· != 41) (rest.drop 1)).2 then
    some name
  else none

/-- The search for placeholders: `skip` characters still belong to the one just found. -/
def numbered (names : List Str) : Nat → Str → Option (List Piece)
  | _, [] => some []
  | skip + 1, _ :: rest => numbered names skip rest
  | 0, c :: rest =>
    match placeholderName? c rest with
    | some name =>
      if name ∈ names then (numbered names (name.length + 3) rest).map (.bind name :: ·) else none
    | none => (numbered names 0 rest).map (.char c :: ·)

/-- A placeholder stands somewhere in the text. -/
def HasPlaceholder (s : Str) : Prop :=
  ∃ before name after, s = before ++ (placeholder name ++ after) ∧ name ≠ [] ∧ 41 ∉ name

section

variable (wide : Nat → Bool)

/-- The parameters a textual statement knows: their names are words. -/
def knownNames (pieces : List Piece) : List Str :=
  (bindNames pieces).filter fun name => name.all (isWordChar wide)

/-- The pieces of a textual statement as it is sent, or nothing when compiling it raises. -/
def compiled (s : Str) : Option (List Piece) :=
  numbered (knownNames wide (textClause wide s)) 0 (rendered (textClause wide s))

/-- The characters of a statement without parameters. -/
def plainText : List Piece → Option Str
  | [] => some []
  | .char c :: pieces => (plainText pieces).map (c :: ·)
  | .bind _ :: _ => none

/-- The text the driver executes when no parameter values are given; a parameter raises. -/
def sentText (s : Str) : Option Str := (compiled wide s).bind plainText

end

/-! ## The search -/

theorem spanRun_parenthesis {name : Str} (h : 41 ∉ name) (after : Str) :
    spanRun (· != 41) (name ++ 41 :: after) = (name, 41 :: after) := by
  refine spanRun_of_stops (fun c hc => bne_iff_ne.mpr fun he => h (he ▸ hc)) ?_
  exact (stopsRun_cons _ 41 after).mpr rfl

/-- A placeholder is found where one begins. -/
theorem placeholderName?_eq_some_iff {c : Nat} {rest name : Str} :
    placeholderName? c rest = some name ↔
      name ≠ [] ∧ 41 ∉ name ∧ ∃ after, c :: rest = placeholder name ++ after := by
  constructor
  · intro h
    obtain ⟨⟨rfl, hopen, hne, hclose⟩, hname⟩ := Option.ite_none_right_eq_some.mp h
    obtain ⟨tail, rfl⟩ := List.head?_eq_some_iff.mp hopen
    obtain ⟨after, hafter⟩ := hclose
    have hspan := spanRun_append (· != 41) tail
    have hall : ∀ d ∈ (spanRun (· != 41) tail).1, (d != 41) = true := spanRun_all _ _
    obtain rfl := Option.some.inj hname
    refine ⟨hne, fun hmem => ?_, after, ?_⟩
    · exact absurd (hall 41 hmem) (by decide)
    · rw [placeholder, List.drop_one, List.tail_cons] at *
      rw [List.cons_append, List.cons_append, List.append_assoc, hafter, hspan]
  · rintro ⟨hne, hname, after, hrest⟩
    obtain ⟨rfl, rfl⟩ : c = 37 ∧ rest = 40 :: (name ++ 41 :: 115 :: after) := by
      simpa [placeholder] using hrest
    have hclose : [41, 115] <+: 41 :: 115 :: after := ⟨after, rfl⟩
    simp only [placeholderName?, List.drop_one, List.tail_cons, List.head?_cons,
      spanRun_parenthesis hname, hne, hclose, ne_eq, not_false_eq_true, and_self, ite_true]

theorem hasPlaceholder_cons_iff {c : Nat} {s : Str} : HasPlaceholder (c :: s) ↔
    (∃ name, placeholderName? c s = some name) ∨ HasPlaceholder s := by
  constructor
  · rintro ⟨before, name, after, hs, hne, hname⟩
    cases before with
    | nil => exact Or.inl ⟨name, placeholderName?_eq_some_iff.mpr ⟨hne, hname, after, hs⟩⟩
    | cons d before =>
      exact Or.inr ⟨before, name, after, (List.cons.inj hs).2, hne, hname⟩
  · rintro (⟨name, h⟩ | ⟨before, name, after, rfl, hne, hname⟩)
    · obtain ⟨hne, hname, after, hs⟩ := placeholderName?_eq_some_iff.mp h
      exact ⟨[], name, after, hs, hne, hname⟩
    · exact ⟨c :: before, name, after, rfl, hne, hname⟩

theorem not_hasPlaceholder_cons_iff {c : Nat} {s : Str} :
    ¬HasPlaceholder (c :: s) ↔ placeholderName? c s = none ∧ ¬HasPlaceholder s := by
  rw [hasPlaceholder_cons_iff, not_or, not_exists, ← Option.eq_none_iff_forall_ne_some]

theorem not_hasPlaceholder_nil : ¬HasPlaceholder [] := by
  rintro ⟨before, name, after, h, -⟩
  have hlength := congrArg List.length h
  simp [placeholder] at hlength

theorem HasPlaceholder.append_right {s : Str} (h : HasPlaceholder s) (t : Str) :
    HasPlaceholder (s ++ t) := by
  obtain ⟨before, name, after, rfl, hne, hname⟩ := h
  exact ⟨before, name, after ++ t, by simp only [List.append_assoc], hne, hname⟩

/-- What is in front of a text without percent signs has no part in a placeholder. -/
theorem hasPlaceholder_append_iff {front : Str} (h : 37 ∉ front) (s : Str) :
    HasPlaceholder (front ++ s) ↔ HasPlaceholder s := by
  induction front with
  | nil => rfl
  | cons c front ih =>
    have hc : c ≠ 37 := fun he => h (he ▸ List.mem_cons_self)
    have hnone : ¬∃ name, placeholderName? c (front ++ s) = some name := by
      simp [placeholderName?, hc]
    rw [List.cons_append, hasPlaceholder_cons_iff, or_iff_right hnone,
      ih fun hmem => h (List.mem_cons_of_mem c hmem)]

/-- Numbering does not change the text. -/
theorem rendered_numbered {names : List Str} {s : Str} : ∀ {skip : Nat} {pieces : List Piece},
    numbered names skip s = some pieces → rendered pieces = s.drop skip := by
  induction s with
  | nil =>
    intro skip pieces h
    obtain rfl : [] = pieces := Option.some.inj (by simpa [numbered] using h)
    simp [rendered]
  | cons c s ih =>
    intro skip pieces h
    cases skip with
    | succ skip => exact ih h
    | zero =>
      rw [numbered] at h
      split at h
      · next name hname =>
        obtain ⟨-, h⟩ := Option.ite_none_right_eq_some.mp h
        obtain ⟨rest, hrest, rfl⟩ := Option.map_eq_some_iff.mp h
        obtain ⟨-, -, after, hs⟩ := placeholderName?_eq_some_iff.mp hname
        obtain ⟨rfl, rfl⟩ := List.cons.inj hs
        have hdrop : (40 :: (name ++ [41, 115]) ++ after).drop (name.length + 3) = after :=
          List.drop_left' (by simp)
        change placeholder name ++ rendered rest = _
        rw [ih hrest]
        exact (congrArg (placeholder name ++ ·) hdrop)
      · obtain ⟨rest, hrest, rfl⟩ := Option.map_eq_some_iff.mp h
        change c :: rendered rest = _
        rw [ih hrest]
        rfl

/-- No placeholder stands in a text that is left. -/
theorem not_hasPlaceholder_of_numbered {names : List Str} {s t : Str} : ∀ {pieces : List Piece},
    numbered names 0 (s ++ t) = some (chars s ++ pieces) → ¬HasPlaceholder s := by
  induction s with
  | nil => exact fun _ => not_hasPlaceholder_nil
  | cons c s ih =>
    intro pieces h
    rw [List.cons_append, numbered] at h
    rw [not_hasPlaceholder_cons_iff]
    split at h
    · next name hname =>
      obtain ⟨-, h⟩ := Option.ite_none_right_eq_some.mp h
      obtain ⟨rest, -, hrest⟩ := Option.map_eq_some_iff.mp h
      cases (List.cons.inj hrest).1
    · next hnone =>
      obtain ⟨rest, hrest, heq⟩ := Option.map_eq_some_iff.mp h
      obtain rfl := (List.cons.inj heq).2
      refine ⟨Option.eq_none_iff_forall_ne_some.mpr fun name hname => ?_, ih hrest⟩
      obtain ⟨hne, hin, after, hs⟩ := placeholderName?_eq_some_iff.mp hname
      have hlonger : c :: (s ++ t) = placeholder name ++ (after ++ t) := by
        rw [← List.cons_append, hs, List.append_assoc]
      rw [placeholderName?_eq_some_iff.mpr ⟨hne, hin, _, hlonger⟩] at hnone
      cases hnone

/-- Where no placeholder begins the text is kept. -/
theorem numbered_cons {names : List Str} {c : Nat} {s : Str} (h : placeholderName? c s = none) :
    numbered names 0 (c :: s) = (numbered names 0 s).map (.char c :: ·) := by
  rw [numbered, h]

/-- A front without percent signs is kept. -/
theorem numbered_append {names : List Str} {front : Str} (h : 37 ∉ front) (s : Str) :
    numbered names 0 (front ++ s) = (numbered names 0 s).map (chars front ++ ·) := by
  induction front with
  | nil => simp
  | cons c front ih =>
    have hc : c ≠ 37 := fun he => h (he ▸ List.mem_cons_self)
    have hnone : placeholderName? c (front ++ s) = none := by simp [placeholderName?, hc]
    rw [List.cons_append, numbered_cons hnone, ih fun hmem => h (List.mem_cons_of_mem c hmem),
      Option.map_map]
    rfl

/-- No placeholder goes over a closing parenthesis that ends none. -/
theorem placeholderName?_append {c d : Nat} {s : Str} (hd : d ≠ 115) (t : Str)
    (h : placeholderName? c s = none) : placeholderName? c (s ++ 41 :: d :: t) = none := by
  rw [Option.eq_none_iff_forall_ne_some] at h ⊢
  intro name hname
  obtain ⟨hne, hin, after, hs⟩ := placeholderName?_eq_some_iff.mp hname
  have hsplit : (c :: s) ++ 41 :: d :: t = (37 :: 40 :: name) ++ 41 :: 115 :: after := by
    rw [List.cons_append, hs, placeholder]
    simp
  rcases append_cons_eq_append_cons_iff.mp hsplit with ⟨-, heq⟩ | ⟨z, hz, -⟩ | ⟨z, hz, heq⟩
  · exact hd (List.cons.inj heq).1
  · -- a parenthesis inside the name
    have hmem : 41 ∈ 37 :: 40 :: name := by simp [hz]
    simp [hin] at hmem
  · cases z with
    | nil => simp at heq
    | cons e z =>
      obtain ⟨rfl, -⟩ := List.cons.inj heq
      exact h name (placeholderName?_eq_some_iff.mpr ⟨hne, hin, z, by simp [hz, placeholder]⟩)

/-- A text without placeholders is kept in front of such a parenthesis. -/
theorem numbered_append_parenthesis {names : List Str} {d : Nat} {s : Str} (hd : d ≠ 115) (t : Str)
    (h : ¬HasPlaceholder s) : numbered names 0 (s ++ 41 :: d :: t) =
      (numbered names 0 (41 :: d :: t)).map (chars s ++ ·) := by
  induction s with
  | nil => simp
  | cons c s ih =>
    obtain ⟨hnone, hrest⟩ := not_hasPlaceholder_cons_iff.mp h
    rw [List.cons_append, numbered_cons (placeholderName?_append hd t hnone), ih hrest,
      Option.map_map]
    rfl

/-- A text without placeholders is kept. -/
theorem numbered_of_not_hasPlaceholder {names : List Str} {s : Str} (h : ¬HasPlaceholder s) :
    numbered names 0 s = some (chars s) := by
  induction s with
  | nil => rfl
  | cons c s ih =>
    obtain ⟨hnone, hrest⟩ := not_hasPlaceholder_cons_iff.mp h
    rw [numbered_cons hnone, ih hrest]
    rfl

/-! ## What is sent -/

variable {wide : Nat → Bool}

/-- A parameter has a name without parentheses. -/
theorem of_bind_mem_scan {name : Str} {s : Str} : ∀ {prev : Option Nat} {skip : Nat},
    .bind name ∈ scan wide prev skip s → name ≠ [] ∧ 41 ∉ name := by
  induction s with
  | nil => simp [scan]
  | cons c s ih =>
    intro prev skip h
    cases skip with
    | succ skip => exact ih h
    | zero =>
      rw [scan_cons_zero] at h
      split at h
      · next word hword =>
        rcases List.mem_cons.mp h with heq | h
        · obtain rfl := Piece.bind.inj heq
          obtain ⟨-, -, hne, hspan, -⟩ := bindName?_eq_some hword
          refine ⟨hne, fun hmem => ?_⟩
          have hall : isNameChar wide 41 = true := spanRun_all _ _ 41 (hspan ▸ hmem)
          simp [isNameChar, isWordChar, isDigit] at hall
        · exact ih h
      · split at h
        · exact ih h
        · rcases List.mem_cons.mp h with heq | h
          · cases heq
          · exact ih h

/-- A scanned text that is written as it was is left. -/
theorem scan_eq_chars_of_rendered {s : Str} : ∀ {prev : Option Nat},
    rendered (scan wide prev 0 s) = s → scan wide prev 0 s = chars s := by
  induction s with
  | nil => exact fun _ => rfl
  | cons c s ih =>
    intro prev h
    rw [scan_cons_zero] at h ⊢
    cases hbind : bindName? wide prev c s with
    | some name =>
      rw [hbind] at h
      obtain rfl := (bindName?_eq_some hbind).1
      cases (List.cons.inj h).1
    | none =>
      cases hescape : escapesColon wide c s with
      | true =>
        -- the colon would stand where the backslash was
        cases s with
        | nil => simp [escapesColon] at hescape
        | cons d s =>
          obtain ⟨⟨rfl, rfl⟩, -⟩ : (c = 92 ∧ d = 58) ∧ _ := by
            simpa [escapesColon] using hescape
          have hblocked : bindName? wide (some 92) 58 s = none := by simp [bindName?, blocksBind]
          simp only [hbind, hescape, if_true, scan_cons_zero, hblocked,
            escapesColon_of_ne (by decide : 58 ≠ 92), Bool.false_eq_true, if_false] at h
          cases (List.cons.inj h).1
      | false =>
        simp only [hbind, hescape, Bool.false_eq_true, if_false] at h
        simp only [Bool.false_eq_true, if_false, chars_cons, ih (List.cons.inj h).2]

theorem exists_chars_of_no_bind {pieces : List Piece} (h : ∀ name, .bind name ∉ pieces) :
    ∃ s, pieces = chars s := by
  induction pieces with
  | nil => exact ⟨[], rfl⟩
  | cons piece pieces ih =>
    obtain ⟨s, rfl⟩ := ih fun name hmem => h name (List.mem_cons_of_mem _ hmem)
    cases piece with
    | bind name => exact absurd List.mem_cons_self (h name)
    | char c => exact ⟨c :: s, rfl⟩

/-- A parameter is a placeholder of the text that is searched. -/
theorem hasPlaceholder_rendered {name : Str} {pieces : List Piece} (h : .bind name ∈ pieces)
    (hne : name ≠ []) (hname : 41 ∉ name) : HasPlaceholder (rendered pieces) := by
  obtain ⟨front, back, rfl⟩ := List.append_of_mem h
  refine ⟨rendered front, name, rendered back, ?_, hne, hname⟩
  rw [rendered_append]
  rfl

/-- A statement without parameters is what the scan leaves, and no placeholder stands in it. -/
theorem compiled_eq_chars_iff {s t : Str} :
    compiled wide s = some (chars t) ↔ textClause wide s = chars t ∧ ¬HasPlaceholder t := by
  constructor
  · intro h
    have hrendered : rendered (textClause wide s) = t := by
      simpa using (rendered_numbered h).symm
    have hnumbered : numbered (knownNames wide (textClause wide s)) 0 (t ++ []) =
        some (chars t ++ []) := by
      rw [List.append_nil, List.append_nil, ← h, compiled, hrendered]
    have hnone : ¬HasPlaceholder t := not_hasPlaceholder_of_numbered hnumbered
    obtain ⟨u, hu⟩ : ∃ u, textClause wide s = chars u := by
      apply exists_chars_of_no_bind
      intro name hmem
      obtain ⟨hne, hin⟩ := of_bind_mem_scan hmem
      exact hnone (hrendered ▸ hasPlaceholder_rendered hmem hne hin)
    rw [hu, rendered_chars] at hrendered
    exact ⟨hrendered ▸ hu, hnone⟩
  · rintro ⟨h, hnone⟩
    rw [compiled, h, rendered_chars, numbered_of_not_hasPlaceholder hnone]

theorem plainText_eq_some_iff {pieces : List Piece} {t : Str} :
    plainText pieces = some t ↔ pieces = chars t := by
  induction pieces generalizing t with
  | nil => simp [plainText, chars]
  | cons piece pieces ih =>
    cases piece with
    | bind name => cases t <;> simp [plainText]
    | char c =>
      rw [cons_char_eq_chars_iff, plainText, Option.map_eq_some_iff]
      exact exists_congr fun a => and_congr ih eq_comm

/-- What is executed is what the scan leaves. -/
theorem sentText_eq_some_iff {s t : Str} :
    sentText wide s = some t ↔ textClause wide s = chars t ∧ ¬HasPlaceholder t := by
  rw [sentText, Option.bind_eq_some_iff, ← compiled_eq_chars_iff]
  constructor
  · rintro ⟨pieces, h, hplain⟩
    rwa [plainText_eq_some_iff.mp hplain] at h
  · exact fun h => ⟨chars t, h, plainText_eq_some_iff.mpr rfl⟩

/-- A front that is left and has no percent sign is executed in front of the rest. -/
theorem sentText_append {front : Str} (hpercent : 37 ∉ front) {s : Str}
    (h : textClause wide (front ++ s) = chars front ++ textClause wide s) :
    sentText wide (front ++ s) = (sentText wide s).map (front ++ ·) := by
  refine Option.ext fun t => ?_
  rw [sentText_eq_some_iff, h, append_eq_chars_iff, Option.map_eq_some_iff]
  constructor
  · rintro ⟨⟨a, b, ha, hb, rfl⟩, hnone⟩
    obtain rfl := chars_injective ha
    rw [hasPlaceholder_append_iff hpercent] at hnone
    exact ⟨b, sentText_eq_some_iff.mpr ⟨hb, hnone⟩, rfl⟩
  · rintro ⟨b, hb, rfl⟩
    obtain ⟨hb, hnone⟩ := sentText_eq_some_iff.mp hb
    exact ⟨⟨front, b, rfl, hb, rfl⟩, (hasPlaceholder_append_iff hpercent b).not.mpr hnone⟩

end LiveData.Sql

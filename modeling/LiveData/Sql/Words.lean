import LiveData.Core.Numeral

/-!
# Words and punctuation

A query text is cut into words, commas, dots and equals signs. Texts with a separator between
them are cut one by one.
-/

namespace LiveData.Sql

/-- What a text is cut into. -/
inductive Token where
  | word (text : Str)
  | comma
  | dot
  | equals
  deriving DecidableEq, Repr

/-- Characters of a word: letters, digits and underscore. -/
def isWordPart (c : Nat) : Bool :=
  isDigit c || (65 ≤ c && c ≤ 90) || (97 ≤ c && c ≤ 122) || c == 95

/-- A character in front of tokens: part of the first word, or a word of its own. -/
def extendWord (c : Nat) (continues : Bool) (tokens : List Token) : List Token :=
  match continues, tokens with
  | true, .word w :: tokens => .word (c :: w) :: tokens
  | _, tokens => .word [c] :: tokens

/-- The tokens of a text. Spaces and line ends only separate; any other character is refused. -/
def tokenize : Str → Option (List Token)
  | [] => some []
  | c :: s =>
    if isWordPart c then (tokenize s).map (extendWord c (s.head?.any isWordPart))
    else if c = 32 ∨ c = 10 then tokenize s
    else if c = 44 then (tokenize s).map (Token.comma :: ·)
    else if c = 46 then (tokenize s).map (Token.dot :: ·)
    else if c = 61 then (tokenize s).map (Token.equals :: ·)
    else none

@[simp] theorem tokenize_nil : tokenize [] = some [] := rfl

/-- A word is one token when what follows does not continue it. -/
theorem tokenize_word {w s : Str} (hne : w ≠ []) (hw : ∀ c ∈ w, isWordPart c = true)
    (hs : StopsRun isWordPart s) : tokenize (w ++ s) = (tokenize s).map (.word w :: ·) := by
  induction w with
  | nil => exact absurd rfl hne
  | cons c w ih =>
    have hc : isWordPart c = true := hw c List.mem_cons_self
    have hstep : tokenize (c :: (w ++ s)) =
        (tokenize (w ++ s)).map (extendWord c ((w ++ s).head?.any isWordPart)) := if_pos hc
    rw [List.cons_append, hstep]
    cases w with
    | nil =>
      have hstop : s.head?.any isWordPart = false := by
        rw [Option.any_eq_false]
        exact fun d hd => by simp [hs d hd]
      rw [List.nil_append, hstop]
      cases tokenize s <;> rfl
    | cons d w =>
      have hd : isWordPart d = true := hw d (by simp)
      rw [ih nofun fun e he => hw e (List.mem_cons_of_mem c he)]
      have hgo : (d :: w ++ s).head?.any isWordPart = true := hd
      rw [hgo]
      cases tokenize s <;> rfl

/-! ## Texts cut one by one -/

/-- The text is cut into these tokens, whatever follows it without continuing its last word. -/
def Cuts (text : Str) (tokens : List Token) : Prop :=
  ∀ rest, StopsRun isWordPart rest → tokenize (text ++ rest) = (tokenize rest).map (tokens ++ ·)

/-- The text keeps words apart and is cut into these tokens. -/
structure Separates (separator : Str) (tokens : List Token) : Prop where
  stops : ∀ rest, StopsRun isWordPart (separator ++ rest)
  cut : ∀ rest, tokenize (separator ++ rest) = (tokenize rest).map (tokens ++ ·)

theorem separates_space : Separates (str " ") [] where
  stops rest := (stopsRun_cons isWordPart 32 rest).mpr rfl
  cut rest := (Option.map_id' : (tokenize rest).map (fun tokens => tokens) = _).symm

theorem separates_lineEnd : Separates (str "\n") [] where
  stops rest := (stopsRun_cons isWordPart 10 rest).mpr rfl
  cut rest := (Option.map_id' : (tokenize rest).map (fun tokens => tokens) = _).symm

theorem separates_comma : Separates (str ", ") [.comma] where
  stops _ := (stopsRun_cons isWordPart 44 _).mpr rfl
  cut _ := rfl

theorem separates_dot : Separates (str ".") [.dot] where
  stops rest := (stopsRun_cons isWordPart 46 rest).mpr rfl
  cut _ := rfl

theorem separates_equals : Separates (str " = ") [.equals] where
  stops _ := (stopsRun_cons isWordPart 32 _).mpr rfl
  cut _ := rfl

theorem cuts_word {w : Str} (hne : w ≠ []) (hw : ∀ c ∈ w, isWordPart c = true) :
    Cuts w [.word w] := fun _ hrest => tokenize_word hne hw hrest

/-- A separator between two texts cuts them apart. -/
theorem Cuts.separated {a b separator : Str} {x y m : List Token} (ha : Cuts a x)
    (hs : Separates separator m) (hb : Cuts b y) :
    Cuts (a ++ separator ++ b) (x ++ m ++ y) := by
  intro rest hrest
  rw [List.append_assoc, List.append_assoc, ha _ (hs.stops _), hs.cut, hb rest hrest,
    Option.map_map, Option.map_map]
  congr 1
  funext tokens
  simp

/-- So does the same separator between many. -/
theorem cuts_intercalate {separator : Str} {m : List Token} (hs : Separates separator m)
    {pieces : List Str} {tokens : List (List Token)} (h : List.Forall₂ Cuts pieces tokens)
    (hne : pieces ≠ []) : Cuts (separator.intercalate pieces) (m.intercalate tokens) := by
  induction h with
  | nil => exact absurd rfl hne
  | cons hp hrest ih =>
    cases hrest with
    | nil =>
      rw [List.intercalate_singleton, List.intercalate_singleton]
      exact hp
    | cons hq hrest =>
      rw [List.intercalate_cons_cons, List.intercalate_cons_cons]
      exact hp.separated hs (ih nofun)

/-- A text that is cut has its tokens. -/
theorem Cuts.tokenize_eq {text : Str} {tokens : List Token} (h : Cuts text tokens) :
    tokenize text = some tokens := by
  have hend := h [] (stopsRun_nil isWordPart)
  rw [List.append_nil, tokenize_nil, Option.map_some, List.append_nil] at hend
  exact hend

/-- A text of lines has the tokens of its lines. -/
theorem tokenize_lines {lines : List Str} {tokens : List (List Token)}
    (h : List.Forall₂ Cuts lines tokens) (hne : lines ≠ []) :
    tokenize ((str "\n").intercalate lines) = some tokens.flatten := by
  have hflat : ∀ pieces : List (List Token), ([] : List Token).intercalate pieces =
      pieces.flatten := by
    intro pieces
    induction pieces with
    | nil => rfl
    | cons piece pieces ih =>
      cases pieces with
      | nil => simp
      | cons next pieces => rw [List.intercalate_cons_cons, ih]; simp
  rw [(cuts_intercalate separates_lineEnd h hne).tokenize_eq, hflat]

/-! ## Names and numerals -/

/-- A lower-case name: a letter or underscore, then also digits. -/
def isName : Str → Bool
  | [] => false
  | c :: rest => ((97 ≤ c && c ≤ 122) || c == 95) &&
      rest.all fun d => (97 ≤ d && d ≤ 122) || isDigit d || d == 95

theorem isName_iff {w : Str} : isName w = true ↔ ∃ c rest, w = c :: rest ∧
    ((97 ≤ c ∧ c ≤ 122) ∨ c = 95) ∧
      ∀ d ∈ rest, (97 ≤ d ∧ d ≤ 122) ∨ isDigit d = true ∨ d = 95 := by
  cases w with
  | nil => simp [isName]
  | cons c rest => simp [isName, or_assoc]

/-- What a name is made of. -/
theorem mem_of_isName {w : Str} (h : isName w = true) :
    ∀ d ∈ w, (97 ≤ d ∧ d ≤ 122) ∨ isDigit d = true ∨ d = 95 := by
  obtain ⟨c, rest, rfl, hc, hrest⟩ := isName_iff.mp h
  intro d hd
  rcases List.mem_cons.mp hd with rfl | hd
  · exact hc.imp id Or.inr
  · exact hrest d hd

/-- A name is a word. -/
theorem isWordPart_of_isName {w : Str} (h : isName w = true) : ∀ c ∈ w, isWordPart c = true := by
  intro d hd
  rcases mem_of_isName h d hd with ⟨hl, hr⟩ | hdigit | rfl
  · simp [isWordPart, hl, hr]
  · simp [isWordPart, hdigit]
  · rfl

/-- A name is in lower case. -/
theorem asciiLower_of_isName {w : Str} (h : isName w = true) : asciiLower w = w := by
  have hsame : ∀ d ∈ w, asciiLowerChar d = d := by
    intro d hd
    have hpart := mem_of_isName h d hd
    rw [asciiLowerChar, if_neg]
    simp only [isDigit, Bool.and_eq_true, decide_eq_true_eq] at hpart
    omega
  exact (List.map_congr_left hsame).trans (List.map_id' _)

theorem cuts_name {w : Str} (h : isName w = true) : Cuts w [.word w] := by
  apply cuts_word
  · rintro rfl
    exact absurd h nofun
  · exact isWordPart_of_isName h

theorem cuts_natText (n : Nat) : Cuts (natText n) [.word (natText n)] := by
  obtain ⟨c, digits, htext, hc, hdigits, -⟩ := natText_eq_cons n
  have hpart : ∀ d, isDigit d = true → isWordPart d = true := by
    intro d hd
    simp [isWordPart, hd]
  rw [htext]
  apply cuts_word (List.cons_ne_nil c digits)
  intro d hd
  rcases List.mem_cons.mp hd with rfl | hd
  · exact hpart _ hc
  · exact hpart d (hdigits d hd)

end LiveData.Sql

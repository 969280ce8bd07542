import LiveData.Sql.Words

/-!
# The text of a simple query

Queries over one table or one join of two, with a list of columns, an optional order and a
limit. Their text is read word by word; a query that is spelled with lower-case names is read
back.
-/

namespace LiveData.Sql

/-! ## Queries -/

/-- A column as written, with its qualifier if it has one. -/
structure ColumnText where
  qualifier : Option Str
  name : Str
  deriving DecidableEq, Repr

/-- The kinds of a join. -/
inductive JoinWord where
  | inner
  | left
  deriving DecidableEq, Repr

/-- The directions of an order. -/
inductive OrderWord where
  | asc
  | desc
  deriving DecidableEq, Repr

/-- A join with the two columns its condition compares. -/
structure JoinText where
  kind : JoinWord
  table : Str
  left : ColumnText
  right : ColumnText
  deriving DecidableEq, Repr

/-- A query. -/
structure SelectText where
  columns : List ColumnText
  table : Str
  join : Option JoinText
  orderBy : Option (ColumnText × OrderWord)
  limit : Nat
  deriving DecidableEq, Repr

/-! ## Reading -/

/-- The next word, when it is the keyword in any case. -/
def readKeyword (keyword : Str) : List Token → Option (List Token)
  | .word w :: tokens => if asciiLower w = keyword then some tokens else none
  | _ => none

/-- The next word as a name, in lower case. -/
def readName : List Token → Option (Str × List Token)
  | .word w :: tokens => if isName (asciiLower w) then some (asciiLower w, tokens) else none
  | _ => none

/-- A column: a name, or two names with a dot between them. -/
def readColumn (tokens : List Token) : Option (ColumnText × List Token) := do
  let (first, tokens) ← readName tokens
  match tokens with
  | .dot :: tokens =>
    let (second, tokens) ← readName tokens
    some (⟨some first, second⟩, tokens)
  | tokens => some (⟨none, first⟩, tokens)

/-- At most so many columns with commas between them. -/
def readColumns : Nat → List Token → Option (List ColumnText × List Token)
  | 0, _ => none
  | n + 1, tokens => do
    let (column, tokens) ← readColumn tokens
    match tokens with
    | .comma :: tokens =>
      let (columns, tokens) ← readColumns n tokens
      some (column :: columns, tokens)
    | tokens => some ([column], tokens)

/-- The word of a join kind, if the next word is one. -/
def joinWord : List Token → Option JoinWord
  | .word w :: _ =>
    if asciiLower w = str "inner" then some .inner
    else if asciiLower w = str "left" then some .left
    else none
  | _ => none

/-- The join, if there is one. -/
def readJoin (tokens : List Token) : Option (Option JoinText × List Token) :=
  match joinWord tokens with
  | none => some (none, tokens)
  | some kind => do
    let tokens ← readKeyword (str "join") (tokens.drop 1)
    let (table, tokens) ← readName tokens
    let tokens ← readKeyword (str "on") tokens
    let (left, tokens) ← readColumn tokens
    match tokens with
    | .equals :: tokens =>
      let (right, tokens) ← readColumn tokens
      some (some ⟨kind, table, left, right⟩, tokens)
    | _ => none

/-- The direction of an order. -/
def readDirection : List Token → Option (OrderWord × List Token)
  | .word w :: tokens =>
    if asciiLower w = str "asc" then some (.asc, tokens)
    else if asciiLower w = str "desc" then some (.desc, tokens)
    else none
  | _ => none

/-- The order, if there is one. -/
def readOrder (tokens : List Token) : Option (Option (ColumnText × OrderWord) × List Token) :=
  match readKeyword (str "order") tokens with
  | none => some (none, tokens)
  | some tokens => do
    let tokens ← readKeyword (str "by") tokens
    let (column, tokens) ← readColumn tokens
    let (direction, tokens) ← readDirection tokens
    some (some (column, direction), tokens)

/-- The limit, which ends the query. -/
def readLimit : List Token → Option Nat
  | [.word keyword, .word w] =>
    if asciiLower keyword = str "limit" ∧ w.all isDigit = true then some (digitsValue w) else none
  | _ => none

/-- The query of a list of tokens. -/
def readTokens (tokens : List Token) : Option SelectText := do
  let (columns, tokens) ← readColumns tokens.length (← readKeyword (str "select") tokens)
  let (table, tokens) ← readName (← readKeyword (str "from") tokens)
  let (join, tokens) ← readJoin tokens
  let (orderBy, tokens) ← readOrder tokens
  let limit ← readLimit tokens
  some ⟨columns, table, join, orderBy, limit⟩

/-- The query of a text. -/
def readSelect (text : Str) : Option SelectText := (tokenize text).bind readTokens

/-! ## Spelling -/

/-- A column as text. -/
def ColumnText.spell (column : ColumnText) : Str :=
  match column.qualifier with
  | none => column.name
  | some qualifier => qualifier ++ 46 :: column.name

/-- A join kind as text. -/
def JoinWord.spell : JoinWord → Str
  | .inner => str "INNER"
  | .left => str "LEFT"

/-- A direction as text. -/
def OrderWord.spell : OrderWord → Str
  | .asc => str "ASC"
  | .desc => str "DESC"

/-- The lines of a join. -/
def JoinText.lines (join : JoinText) : List Str :=
  [join.kind.spell ++ str " JOIN " ++ join.table,
    str "  ON " ++ join.left.spell ++ str " = " ++ join.right.spell]

/-- The line of an order. -/
def orderLine (order : ColumnText × OrderWord) : Str :=
  str "ORDER BY " ++ order.1.spell ++ str " " ++ order.2.spell

namespace SelectText

/-- The lines of a query. -/
def lines (query : SelectText) : List Str :=
  [str "SELECT " ++ (str ", ").intercalate (query.columns.map ColumnText.spell),
    str "FROM " ++ query.table] ++ (query.join.map JoinText.lines).getD [] ++
    (query.orderBy.map orderLine).toList ++ [str "LIMIT " ++ natText query.limit]

/-- A query as text. -/
def spell (query : SelectText) : Str := (str "\n").intercalate query.lines

end SelectText

/-- The words of a column are lower-case names. -/
def ColumnText.Named (column : ColumnText) : Prop :=
  isName column.name = true ∧ ∀ qualifier ∈ column.qualifier, isName qualifier = true

/-- There is a column to select and all names are lower-case names. -/
structure SelectText.Named (query : SelectText) : Prop where
  columns_ne_nil : query.columns ≠ []
  columns : ∀ column ∈ query.columns, column.Named
  table : isName query.table = true
  join : ∀ join ∈ query.join, isName join.table = true ∧ join.left.Named ∧ join.right.Named
  order : ∀ order ∈ query.orderBy, order.1.Named

/-! ## The tokens of a spelled query -/

/-- The tokens of a column. -/
def ColumnText.tokens (column : ColumnText) : List Token :=
  match column.qualifier with
  | none => [.word column.name]
  | some qualifier => [.word qualifier, .dot, .word column.name]

/-- The tokens of a join. -/
def JoinText.tokens (join : JoinText) : List Token :=
  [.word join.kind.spell, .word (str "JOIN"), .word join.table, .word (str "ON")] ++
    join.left.tokens ++ .equals :: join.right.tokens

/-- The tokens of an order. -/
def orderTokens (order : ColumnText × OrderWord) : List Token :=
  [.word (str "ORDER"), .word (str "BY")] ++ order.1.tokens ++ [.word order.2.spell]

/-- The tokens of a query. -/
def SelectText.tokens (query : SelectText) : List Token :=
  .word (str "SELECT") :: [Token.comma].intercalate (query.columns.map ColumnText.tokens) ++
    [.word (str "FROM"), .word query.table] ++ (query.join.map JoinText.tokens).getD [] ++
    (query.orderBy.map orderTokens).getD [] ++ [.word (str "LIMIT"), .word (natText query.limit)]

theorem cuts_column {column : ColumnText} (h : column.Named) :
    Cuts column.spell column.tokens := by
  obtain ⟨qualifier, name⟩ := column
  obtain ⟨hname, hqualifier⟩ := h
  cases qualifier with
  | none => exact cuts_name hname
  | some qualifier =>
    have hsplit : (⟨some qualifier, name⟩ : ColumnText).spell = qualifier ++ str "." ++ name := by
      simp [ColumnText.spell, str]
    rw [hsplit]
    exact (cuts_name (hqualifier qualifier rfl)).separated separates_dot (cuts_name hname)

theorem cuts_joinWord (kind : JoinWord) : Cuts kind.spell [.word kind.spell] := by
  cases kind <;> exact cuts_word (by decide) (by decide)

theorem cuts_orderWord (direction : OrderWord) : Cuts direction.spell [.word direction.spell] := by
  cases direction <;> exact cuts_word (by decide) (by decide)

/-- The line of the columns. -/
theorem cuts_selectLine {columns : List ColumnText} (hne : columns ≠ [])
    (h : ∀ column ∈ columns, column.Named) :
    Cuts (str "SELECT " ++ (str ", ").intercalate (columns.map ColumnText.spell))
      (.word (str "SELECT") :: [Token.comma].intercalate (columns.map ColumnText.tokens)) := by
  have hcolumns : List.Forall₂ Cuts (columns.map ColumnText.spell)
      (columns.map ColumnText.tokens) := by
    rw [List.forall₂_map_left_iff, List.forall₂_map_right_iff, List.forall₂_same]
    exact fun column hc => cuts_column (h column hc)
  have hselect : Cuts (str "SELECT") [.word (str "SELECT")] := cuts_word (by decide) (by decide)
  exact hselect.separated separates_space
    (cuts_intercalate separates_comma hcolumns (by simpa using hne))

/-- The lines of a join. -/
theorem cuts_joinLines {join : JoinText} (ht : isName join.table = true) (hl : join.left.Named)
    (hr : join.right.Named) : ∃ tokens, List.Forall₂ Cuts join.lines tokens ∧
      tokens.flatten = join.tokens := by
  have hjoin : Cuts (str "JOIN") [.word (str "JOIN")] := cuts_word (by decide) (by decide)
  have hfirst : Cuts (join.kind.spell ++ str " " ++ str "JOIN" ++ str " " ++ join.table) _ :=
    ((cuts_joinWord join.kind).separated separates_space hjoin).separated separates_space
      (cuts_name ht)
  have hon : Cuts (str "  ON") [.word (str "ON")] := by
    intro rest hrest
    exact tokenize_word (w := str "ON") (by decide) (by decide) hrest
  have hsecond : Cuts (str "  ON" ++ str " " ++ join.left.spell ++ str " = " ++
      join.right.spell) _ :=
    ((hon.separated separates_space (cuts_column hl)).separated separates_equals
      (cuts_column hr))
  have hlines : join.lines = [join.kind.spell ++ str " " ++ str "JOIN" ++ str " " ++ join.table,
      str "  ON" ++ str " " ++ join.left.spell ++ str " = " ++ join.right.spell] := by
    simp [JoinText.lines, str]
  rw [hlines]
  refine ⟨_, .cons hfirst (.cons hsecond .nil), ?_⟩
  simp [JoinText.tokens]

/-- The line of an order. -/
theorem cuts_orderLine {order : ColumnText × OrderWord} (h : order.1.Named) :
    Cuts (orderLine order) (orderTokens order) := by
  have horder : Cuts (str "ORDER BY") [.word (str "ORDER"), .word (str "BY")] := by
    have hfirst : Cuts (str "ORDER") [.word (str "ORDER")] := cuts_word (by decide) (by decide)
    have hsecond : Cuts (str "BY") [.word (str "BY")] := cuts_word (by decide) (by decide)
    exact hfirst.separated separates_space hsecond
  have hline : Cuts (str "ORDER BY" ++ str " " ++ order.1.spell ++ str " " ++ order.2.spell) _ :=
    (horder.separated separates_space (cuts_column h)).separated separates_space
      (cuts_orderWord order.2)
  have htext : orderLine order =
      str "ORDER BY" ++ str " " ++ order.1.spell ++ str " " ++ order.2.spell := by
    simp [orderLine, str]
  rw [htext]
  simpa [orderTokens] using hline

namespace SelectText

variable {query : SelectText}

/-- A spelled query is cut into its tokens. -/
theorem tokenize_spell (h : query.Named) : tokenize query.spell = some query.tokens := by
  obtain ⟨columns, table, join, orderBy, limit⟩ := query
  have hfrom : Cuts (str "FROM " ++ table) [.word (str "FROM"), .word table] := by
    have hword : Cuts (str "FROM") [.word (str "FROM")] := cuts_word (by decide) (by decide)
    exact hword.separated separates_space (cuts_name h.table)
  have hlimit : Cuts (str "LIMIT " ++ natText limit)
      [.word (str "LIMIT"), .word (natText limit)] := by
    have hword : Cuts (str "LIMIT") [.word (str "LIMIT")] := cuts_word (by decide) (by decide)
    exact hword.separated separates_space (cuts_natText limit)
  obtain ⟨joinTokens, hjoin, hflat⟩ : ∃ tokens,
      List.Forall₂ Cuts ((join.map JoinText.lines).getD []) tokens ∧
        tokens.flatten = (join.map JoinText.tokens).getD [] := by
    cases join with
    | none => exact ⟨[], .nil, rfl⟩
    | some join =>
      obtain ⟨ht, hl, hr⟩ := h.join join rfl
      exact cuts_joinLines ht hl hr
  obtain ⟨orderTokens, horder, hordered⟩ : ∃ tokens,
      List.Forall₂ Cuts (orderBy.map orderLine).toList tokens ∧
        tokens.flatten = (orderBy.map orderTokens).getD [] := by
    cases orderBy with
    | none => exact ⟨[], .nil, rfl⟩
    | some order => exact ⟨[_], .cons (cuts_orderLine (h.order order rfl)) .nil, by simp⟩
  have hlines := List.rel_append (List.rel_append (List.rel_append
    (List.Forall₂.cons (cuts_selectLine h.columns_ne_nil h.columns) (.cons hfrom .nil)) hjoin)
    horder) (List.Forall₂.cons hlimit .nil)
  have htext : spell ⟨columns, table, join, orderBy, limit⟩ = (str "\n").intercalate
      (lines ⟨columns, table, join, orderBy, limit⟩) := rfl
  rw [htext]
  refine (tokenize_lines hlines (by simp)).trans ?_
  simp [SelectText.tokens, hflat, hordered]

end SelectText

/-! ## Reading what is spelled -/

theorem readName_cons {w : Str} (h : isName w = true) (rest : List Token) :
    readName (.word w :: rest) = some (w, rest) := by
  rw [readName, asciiLower_of_isName h, if_pos h]

/-- A column is read when no dot follows it. -/
theorem readColumn_append {column : ColumnText} (h : column.Named) {rest : List Token}
    (hrest : rest.head? ≠ some .dot) :
    readColumn (column.tokens ++ rest) = some (column, rest) := by
  obtain ⟨qualifier, name⟩ := column
  obtain ⟨hname, hqualifier⟩ := h
  cases qualifier with
  | none =>
    have hfirst : readName (.word name :: rest) = some (name, rest) := readName_cons hname rest
    simp only [readColumn, ColumnText.tokens, List.cons_append, List.nil_append, hfirst,
      Option.bind_eq_bind, Option.bind_some]
    split
    · exact absurd rfl hrest
    · rfl
  | some qualifier =>
    have hfirst : readName (.word qualifier :: .dot :: .word name :: rest) =
        some (qualifier, .dot :: .word name :: rest) := readName_cons (hqualifier qualifier rfl) _
    have hsecond : readName (.word name :: rest) = some (name, rest) := readName_cons hname rest
    simp only [readColumn, ColumnText.tokens, List.cons_append, List.nil_append, hfirst, hsecond,
      Option.bind_eq_bind, Option.bind_some]

/-- Columns are read when neither a dot nor a comma follows them. -/
theorem readColumns_append {columns : List ColumnText} (hne : columns ≠ [])
    (h : ∀ column ∈ columns, column.Named) {rest : List Token} (hdot : rest.head? ≠ some .dot)
    (hcomma : rest.head? ≠ some .comma) {n : Nat} (hn : columns.length ≤ n) :
    readColumns n ([Token.comma].intercalate (columns.map ColumnText.tokens) ++ rest) =
      some (columns, rest) := by
  induction columns generalizing n with
  | nil => exact absurd rfl hne
  | cons column columns ih =>
    obtain ⟨n, rfl⟩ : ∃ m, n = m + 1 := ⟨n - 1, by simp at hn; omega⟩
    have hcolumn : column.Named := h column List.mem_cons_self
    cases columns with
    | nil =>
      rw [List.map_cons, List.map_nil, List.intercalate_singleton, readColumns,
        readColumn_append hcolumn hdot]
      simp only [Option.bind_eq_bind, Option.bind_some]
      split
      · exact absurd rfl hcomma
      · rfl
    | cons next columns =>
      have hrest := ih nofun (fun c hc => h c (List.mem_cons_of_mem column hc))
        (n := n) (by simpa using hn)
      rw [List.map_cons, List.map_cons, List.intercalate_cons_cons, readColumns, List.append_assoc,
        List.append_assoc, readColumn_append hcolumn (by simp)]
      simp only [Option.bind_eq_bind, Option.bind_some, List.cons_append, List.nil_append]
      rw [List.map_cons] at hrest
      rw [hrest]
      rfl

/-- A join is read when no dot follows it. -/
theorem readJoin_append {join : JoinText} (ht : isName join.table = true) (hl : join.left.Named)
    (hr : join.right.Named) {rest : List Token} (hrest : rest.head? ≠ some .dot) :
    readJoin (join.tokens ++ rest) = some (some join, rest) := by
  obtain ⟨kind, table, left, right⟩ := join
  have hword : joinWord (.word kind.spell ::
      (.word (str "JOIN") :: .word table :: .word (str "ON") ::
        (left.tokens ++ .equals :: (right.tokens ++ rest)))) = some kind := by
    cases kind <;> rfl
  have hjoin : ∀ tokens, readKeyword (str "join") (.word (str "JOIN") :: tokens) = some tokens :=
    fun _ => rfl
  have hon : ∀ tokens, readKeyword (str "on") (.word (str "ON") :: tokens) = some tokens :=
    fun _ => rfl
  have htable : ∀ tokens, readName (.word table :: tokens) = some (table, tokens) :=
    readName_cons ht
  have hleft : readColumn (left.tokens ++ .equals :: (right.tokens ++ rest)) =
      some (left, .equals :: (right.tokens ++ rest)) := readColumn_append hl (by simp)
  have hright : readColumn (right.tokens ++ rest) = some (right, rest) :=
    readColumn_append hr hrest
  simp only [JoinText.tokens, List.cons_append, List.append_assoc, List.nil_append]
  unfold readJoin
  rw [hword]
  simp only [List.drop_succ_cons, List.drop_zero, hjoin, htable, hon, hleft, hright,
    Option.bind_eq_bind, Option.bind_some]

/-- An order is read with its direction. -/
theorem readOrder_append {order : ColumnText × OrderWord} (h : order.1.Named)
    (rest : List Token) : readOrder (orderTokens order ++ rest) = some (some order, rest) := by
  obtain ⟨column, direction⟩ := order
  have horder : ∀ tokens, readKeyword (str "order") (.word (str "ORDER") :: tokens) =
      some tokens := fun _ => rfl
  have hby : ∀ tokens, readKeyword (str "by") (.word (str "BY") :: tokens) = some tokens :=
    fun _ => rfl
  have hcolumn : readColumn (column.tokens ++ (.word direction.spell :: rest)) =
      some (column, .word direction.spell :: rest) := readColumn_append h (by simp)
  have hdirection : readDirection (.word direction.spell :: rest) = some (direction, rest) := by
    cases direction <;> rfl
  simp only [orderTokens, List.cons_append, List.append_assoc, List.nil_append]
  unfold readOrder
  rw [horder]
  simp only [hby, hcolumn, hdirection, Option.bind_eq_bind, Option.bind_some]

theorem readLimit_natText (n : Nat) :
    readLimit [.word (str "LIMIT"), .word (natText n)] = some n := by
  have hdigits : (natText n).all isDigit = true :=
    List.all_eq_true.mpr (isDigit_padDigits _ n)
  have hkeyword : asciiLower (str "LIMIT") = str "limit" := by decide
  rw [readLimit, if_pos ⟨hkeyword, hdigits⟩, digitsValue_natText]

/-- There are no more columns than tokens of them. -/
theorem length_le_intercalate (columns : List ColumnText) :
    columns.length ≤ ([Token.comma].intercalate (columns.map ColumnText.tokens)).length := by
  have hpos : ∀ column : ColumnText, 1 ≤ column.tokens.length := by
    rintro ⟨qualifier, name⟩
    cases qualifier <;> simp [ColumnText.tokens]
  induction columns with
  | nil => exact Nat.zero_le _
  | cons column columns ih =>
    have hfirst := hpos column
    cases columns with
    | nil => simpa using hfirst
    | cons next columns =>
      rw [List.map_cons, List.map_cons, List.intercalate_cons_cons]
      rw [List.map_cons] at ih
      simp only [List.length_append, List.length_cons] at ih ⊢
      omega

/-- The tokens of a query are read as the query. -/
theorem readTokens_tokens {query : SelectText} (h : query.Named) :
    readTokens query.tokens = some query := by
  obtain ⟨columns, table, join, orderBy, limit⟩ := query
  let last : List Token := [.word (str "LIMIT"), .word (natText limit)]
  let ordered : List Token := (orderBy.map orderTokens).getD [] ++ last
  let joined : List Token := (join.map JoinText.tokens).getD [] ++ ordered
  let listed : List Token := .word (str "FROM") :: .word table :: joined
  have htokens : SelectText.tokens ⟨columns, table, join, orderBy, limit⟩ = .word (str "SELECT") ::
      ([Token.comma].intercalate (columns.map ColumnText.tokens) ++ listed) := by
    simp [SelectText.tokens, listed, joined, ordered, last]
  have hselect : ∀ tokens, readKeyword (str "select") (.word (str "SELECT") :: tokens) =
      some tokens := fun _ => rfl
  have hfrom : readKeyword (str "from") listed = some (.word table :: joined) := rfl
  have htable : readName (.word table :: joined) = some (table, joined) := readName_cons h.table _
  have horder : readOrder ordered = some (orderBy, last) := by
    cases orderBy with
    | none => rfl
    | some order => exact readOrder_append (h.order order rfl) last
  have hjoin : readJoin joined = some (join, ordered) := by
    cases join with
    | none => cases orderBy <;> rfl
    | some join =>
      obtain ⟨ht, hl, hr⟩ := h.join join rfl
      have hnext : ordered.head? ≠ some .dot := by cases orderBy <;> exact nofun
      exact readJoin_append ht hl hr hnext
  have hcolumns : ∀ n, columns.length ≤ n →
      readColumns n ([Token.comma].intercalate (columns.map ColumnText.tokens) ++ listed) =
        some (columns, listed) := fun n hn =>
    readColumns_append h.columns_ne_nil h.columns (by simp [listed]) (by simp [listed]) hn
  have hlength : columns.length ≤
      (SelectText.tokens ⟨columns, table, join, orderBy, limit⟩).length := by
    have hle := length_le_intercalate columns
    rw [htokens, List.length_cons, List.length_append]
    omega
  unfold readTokens
  rw [htokens] at hlength ⊢
  simp only [hselect, hcolumns _ hlength, hfrom, htable, hjoin, horder, last, readLimit_natText,
    Option.bind_eq_bind, Option.bind_some]

/-- A query that is spelled with names is read back. -/
theorem readSelect_spell {query : SelectText} (h : query.Named) :
    readSelect query.spell = some query := by
  rw [readSelect, SelectText.tokenize_spell h, Option.bind_some, readTokens_tokens h]

end LiveData.Sql

import SigningConsole.Report.Table
/-!
The columns of a text table stand under each other.

Every row fits the widths of the columns, be it shorter or longer than the header
(`Table.fits_widths`). A line is then, but for the spaces at its end, the cells one after the
other, each filled up with spaces to where the next column begins (`Table.blocks`,
`Table.lineChars_append_spaces`), so that a cell stands where the widths before it say
(`Table.standsAt_blocks`). The end of a line is cut at blanks of any kind, of which plain cells
have none but spaces.

Main statement: `Table.columns_aligned`.
-/

namespace SigningConsole.Table

open Text

/-! ## Alignment -/

/-- The cell is not wider than a column may be, and has no blanks but spaces. -/
structure IsPlain (cell : String) : Prop where
  width : cell.toList.length ≤ maxWidth
  spaces : ∀ c ∈ cell.toList, isBlank c = true → c = ' '

theorem isPlain_iff {cell : String} :
    IsPlain cell ↔ cell.toList.length ≤ maxWidth ∧
    cell.toList.all (fun c => !isBlank c || c == ' ') = true := by
  have hall : cell.toList.all (fun c => !isBlank c || c == ' ') = true ↔
      ∀ c ∈ cell.toList, isBlank c = true → c = ' ' := by
    simp [List.all_eq_true, Decidable.imp_iff_not_or]
  rw [hall]
  exact ⟨fun h => ⟨h.width, h.spaces⟩, fun h => ⟨h.1, h.2⟩⟩

instance (cell : String) : Decidable (IsPlain cell) := decidable_of_iff _ isPlain_iff.symm

/-- The cell stands whole at an offset in the line, with at least two spaces before the next
offset. -/
def StandsAt (line : List Char) (cell : String) (start next : Nat) : Prop :=
  ∃ gap, 2 ≤ gap ∧ next = start + cell.toList.length + gap ∧
    cell.toList ++ List.replicate gap ' ' <+: line.drop start

/-- With spaces behind it, the line has each cell of a row at the offset of its column, and
nothing behind the last. -/
def Aligned (offset : Nat → Nat) (line : List Char) (cells : List String) : Prop :=
  ∃ spaces, (line ++ List.replicate spaces ' ').length = offset cells.length ∧
    ∀ i cell, cells[i]? = some cell →
      StandsAt (line ++ List.replicate spaces ' ') cell (offset i) (offset (i + 1))

theorem StandsAt.append_left {line : List Char} {cell : String} {start next : Nat}
    (h : StandsAt line cell start next) (front : List Char) :
    StandsAt (front ++ line) cell (front.length + start) (front.length + next) := by
  obtain ⟨gap, hgap, hnext, hprefix⟩ := h
  refine ⟨gap, hgap, by omega, ?_⟩
  rwa [List.drop_length_add_append]

/-! ## Widths -/

variable {ws : List Nat} {cells : List String}

/-- There is a width for each of the cells, and none of them is wider. -/
inductive Fits : List Nat → List String → Prop where
  | nil (ws : List Nat) : Fits ws []
  | cons {w : Nat} {ws : List Nat} {cell : String} {cells : List String}
    (hw : cell.toList.length ≤ w) (hws : Fits ws cells) : Fits (w :: ws) (cell :: cells)

theorem fits_cellWidths (cells : List String) : Fits (cellWidths cells) cells := by
  induction cells with
  | nil => exact .nil _
  | cons cell cells ih => exact .cons (Nat.le_refl _) ih

/-- What fits stays so when columns become wider. -/
theorem Fits.merge (h : Fits ws cells) (vs : List Nat) : Fits (mergeWidths ws vs) cells := by
  induction h generalizing vs with
  | nil ws => exact .nil _
  | cons hw hws ih =>
    cases vs with
    | nil => exact .cons hw hws
    | cons v vs => exact .cons (Nat.le_trans hw (Nat.le_max_left _ _)) (ih vs)

theorem fits_merge_cellWidths (ws : List Nat) (cells : List String) :
    Fits (mergeWidths ws (cellWidths cells)) cells := by
  induction cells generalizing ws with
  | nil => exact .nil _
  | cons cell cells ih =>
    cases ws with
    | nil => exact fits_cellWidths (cell :: cells)
    | cons w ws => exact .cons (Nat.le_max_right _ _) (ih ws)

/-- The widths that rows make of the widths before them. -/
def widen (ws : List Nat) (rows : List (List String)) : List Nat :=
  rows.foldl (fun ws row => mergeWidths ws (cellWidths row)) ws

theorem Fits.widen (h : Fits ws cells) (rows : List (List String)) :
    Fits (widen ws rows) cells := by
  induction rows generalizing ws with
  | nil => exact h
  | cons row rows ih => exact ih (h.merge (cellWidths row))

theorem fits_widen {rows : List (List String)} (h : cells ∈ rows) (ws : List Nat) :
    Fits (widen ws rows) cells := by
  induction rows generalizing ws with
  | nil => cases h
  | cons row rows ih =>
    obtain rfl | h := List.mem_cons.1 h
    · exact (fits_merge_cellWidths ws cells).widen rows
    · exact ih h _

theorem fits_widths {t : Table} (h : cells ∈ t.headers :: t.rows) : Fits t.widths cells := by
  obtain rfl | h := List.mem_cons.1 h
  · exact (fits_cellWidths t.headers).widen t.rows
  · exact fits_widen h _

theorem mergeWidths_le {m : Nat} {ws vs : List Nat} (hws : ∀ w ∈ ws, w ≤ m)
    (hvs : ∀ v ∈ vs, v ≤ m) :
    ∀ w ∈ mergeWidths ws vs, w ≤ m := by
  induction ws generalizing vs with
  | nil => cases vs <;> exact hvs
  | cons w ws ih =>
    cases vs with
    | nil => exact hws
    | cons v vs =>
      obtain ⟨hw, hws⟩ := List.forall_mem_cons.1 hws
      obtain ⟨hv, hvs⟩ := List.forall_mem_cons.1 hvs
      exact List.forall_mem_cons.2 ⟨Nat.max_le.2 ⟨hw, hv⟩, ih hws hvs⟩

theorem widen_le {m : Nat} {rows : List (List String)} (hws : ∀ w ∈ ws, w ≤ m)
    (hrows : ∀ row ∈ rows, ∀ w ∈ cellWidths row, w ≤ m) : ∀ w ∈ widen ws rows, w ≤ m := by
  induction rows generalizing ws with
  | nil => exact hws
  | cons row rows ih =>
    obtain ⟨hrow, hrows⟩ := List.forall_mem_cons.1 hrows
    exact ih (mergeWidths_le hws hrow) hrows

/-- No column is wider than the widest cell. -/
theorem widths_le {t : Table} {m : Nat}
    (h : ∀ cells ∈ t.headers :: t.rows, ∀ cell ∈ cells, cell.toList.length ≤ m) :
    ∀ w ∈ t.widths, w ≤ m := by
  obtain ⟨hheaders, hrows⟩ := List.forall_mem_cons.1 h
  exact widen_le (List.forall_mem_map.2 hheaders) fun row hrow => List.forall_mem_map.2
    (hrows row hrow)

/-! ## Lines -/

/-- Where a column begins. -/
def columnStart : List Nat → Nat → Nat
  | w :: ws, i + 1 => w + 2 + columnStart ws i
  | _, _ => 0

/-- The cells of a line, each filled up to where the next column begins. -/
def blocks : List Nat → List String → List Char
  | w :: ws, cell :: cells => padCell (w + 2) cell ++ blocks ws cells
  | _, _ => []

@[simp] theorem columnStart_zero (ws : List Nat) : columnStart ws 0 = 0 := by cases ws <;> rfl

@[simp] theorem blocks_nil (ws : List Nat) : blocks ws [] = [] := by cases ws <;> rfl

theorem length_padCell {w : Nat} {cell : String} (h : cell.toList.length ≤ w) :
    (padCell w cell).length = w := by
  rw [padCell, List.length_append, List.length_replicate]
  omega

theorem padCell_append_spaces {w : Nat} {cell : String} (h : cell.toList.length ≤ w) (n : Nat) :
    padCell w cell ++ List.replicate n ' ' = padCell (w + n) cell := by
  unfold padCell
  rw [List.append_assoc, List.replicate_append_replicate, Nat.sub_add_comm h]

theorem length_blocks (h : Fits ws cells) :
    (blocks ws cells).length = columnStart ws cells.length := by
  induction h with
  | nil ws =>
    rw [blocks_nil]
    exact (columnStart_zero ws).symm
  | cons hw hws ih =>
    rw [blocks, List.length_append, length_padCell (Nat.le_add_right_of_le hw), ih]
    rfl

/-- Each cell stands where its column begins. -/
theorem standsAt_blocks (h : Fits ws cells) {i : Nat} {cell : String} (hi : cells[i]? = some cell) :
    StandsAt (blocks ws cells) cell (columnStart ws i) (columnStart ws (i + 1)) := by
  induction h generalizing i with
  | nil ws => cases hi
  | @cons w ws cell' cells hw hws ih =>
    cases i with
    | zero =>
      obtain rfl : cell' = cell := Option.some.inj hi
      refine ⟨w + 2 - cell'.toList.length, by omega, ?_, ?_⟩
      · simp only [columnStart, columnStart_zero]
        omega
      · exact List.prefix_append _ _
    | succ i =>
      have hlength : (padCell (w + 2) cell').length = w + 2 :=
        length_padCell (Nat.le_add_right_of_le hw)
      have hstands := (ih hi).append_left (padCell (w + 2) cell')
      rwa [hlength] at hstands

/-- A line before it is cut, with two spaces behind it. -/
theorem flatten_padCells (h : Fits ws cells) (hne : cells ≠ []) :
    ((padCells ws cells).intersperse [' ', ' ']).flatten ++ [' ', ' '] = blocks ws cells := by
  induction h with
  | nil ws => exact absurd rfl hne
  | @cons w ws cell cells hw hws ih =>
    have hcell : padCell w cell ++ [' ', ' '] = padCell (w + 2) cell := padCell_append_spaces hw 2
    rw [blocks, ← hcell]
    cases hws with
    | nil ws =>
      show [padCell w cell].flatten ++ [' ', ' '] = _
      rw [List.flatten_singleton, blocks_nil, List.append_nil]
    | @cons w' ws cell' cells hw' hws =>
      rw [← ih (List.cons_ne_nil _ _)]
      simp only [padCells, List.intersperse_cons_cons, List.flatten_cons, List.append_assoc]

theorem eq_space_of_mem_blocks (h : Fits ws cells)
    (hplain : ∀ cell ∈ cells, IsPlain cell) {c : Char} (hc : c ∈ blocks ws cells)
    (hblank : isBlank c = true) : c = ' ' := by
  induction h with
  | nil ws =>
    rw [blocks_nil] at hc
    cases hc
  | @cons w ws cell cells hw hws ih =>
    obtain ⟨hcell, hcells⟩ := List.forall_mem_cons.1 hplain
    rw [blocks, padCell, List.mem_append, List.mem_append] at hc
    obtain (hc | hc) | hc := hc
    · exact hcell.spaces c hc hblank
    · exact List.eq_of_mem_replicate hc
    · exact ih hcells hc

/-- But for spaces at its end, a line is its cells, each filled up to where the next column
begins. -/
theorem lineChars_append_spaces (h : Fits ws cells) (hplain : ∀ cell ∈ cells, IsPlain cell) :
    ∃ spaces, lineChars ws cells ++ List.replicate spaces ' ' = blocks ws cells := by
  by_cases hne : cells = []
  · subst hne
    exact ⟨0, (blocks_nil ws).symm⟩
  · obtain ⟨-, tail, hline, hblank⟩ :=
      dropSuffixWhile_eq_iff.1 (show _ = lineChars ws cells from rfl)
    have hwhole : lineChars ws cells ++ (tail ++ [' ', ' ']) = blocks ws cells := by
      rw [← flatten_padCells h hne, hline, List.append_assoc]
    have htail : tail = List.replicate tail.length ' ' := List.eq_replicate_iff.2 ⟨rfl, fun c hc =>
      eq_space_of_mem_blocks h hplain (hwhole ▸ List.mem_append_right _ (List.mem_append_left _ hc))
        (hblank c hc)⟩
    rw [htail, show [' ', ' '] = List.replicate 2 ' ' from rfl,
      List.replicate_append_replicate] at hwhole
    exact ⟨_, hwhole⟩

theorem aligned_lineChars (h : Fits ws cells) (hplain : ∀ cell ∈ cells, IsPlain cell) :
    Aligned (columnStart ws) (lineChars ws cells) cells := by
  obtain ⟨spaces, hline⟩ := lineChars_append_spaces h hplain
  refine ⟨spaces, ?_⟩
  rw [hline]
  exact ⟨length_blocks h, fun i cell => standsAt_blocks h⟩

theorem newLine_not_mem_lineChars (h : Fits ws cells) (hplain : ∀ cell ∈ cells, IsPlain cell) :
    '\n' ∉ lineChars ws cells := by
  intro hmem
  obtain ⟨spaces, hline⟩ := lineChars_append_spaces h hplain
  have hspace := eq_space_of_mem_blocks h hplain (hline ▸ List.mem_append_left _ hmem) rfl
  exact absurd hspace (by decide)

theorem getLast?_lineChars (ws : List Nat) (cells : List String) :
    (lineChars ws cells).getLast? ≠ some ' ' := by
  intro hlast
  obtain ⟨hfree, -⟩ := dropSuffixWhile_eq_iff.1 (show _ = lineChars ws cells from rfl)
  exact absurd (hfree ' ' hlast) (by decide)

/-! ## Tables -/

/-- A table whose cells have no blanks but spaces and are not too wide has a text: one line
for the header and one for each row, none with a space at its end. One offset for each
column serves all lines: there the cells of the column stand whole, with at least two spaces
before the next column. -/
theorem columns_aligned (t : Table)
    (h : ∀ cells ∈ t.headers :: t.rows, ∀ cell ∈ cells, IsPlain cell) :
    ∃ (text : String) (line : List String → List Char) (offset : Nat → Nat),
      t.text? = some text ∧
      text.toList = (t.headers :: t.rows).flatMap (fun cells => line cells ++ ['\n']) ∧
      offset 0 = 0 ∧ ∀ cells ∈ t.headers :: t.rows,
        '\n' ∉ line cells ∧ (line cells).getLast? ≠ some ' ' ∧
        Aligned offset (line cells) cells := by
  have hwidths : t.widths.all (· ≤ maxWidth) = true :=
    List.all_eq_true.2 fun w hw =>
      decide_eq_true (widths_le (fun cells hc cell hm => (h cells hc cell hm).width) w hw)
  refine ⟨t.text, lineChars t.widths, columnStart t.widths, if_pos hwidths, ?_, columnStart_zero _,
    fun cells hc => ?_⟩
  · rw [text, String.toList_ofList, lines, List.flatMap_map]
  · exact ⟨newLine_not_mem_lineChars (fits_widths hc) (h cells hc), getLast?_lineChars _ _,
      aligned_lineChars (fits_widths hc) (h cells hc)⟩

/-- A row without cells, one that is shorter and one that is longer than the header, and cells with
spaces at their ends and beyond ASCII. -/
theorem ragged_columns_aligned :
    let t : Table := ⟨["ID", "NAME"], [["1"], [], ["12", "Zoë ", " x "]]⟩
    (∀ cells ∈ t.headers :: t.rows, ∀ cell ∈ cells, IsPlain cell) ∧
      t.text? = some "ID  NAME\n1\n\n12  Zoë    x\n" ∧
      ∃ (line : List String → List Char) (offset : Nat → Nat),
        "ID  NAME\n1\n\n12  Zoë    x\n".toList =
            (t.headers :: t.rows).flatMap (fun cells => line cells ++ ['\n']) ∧
          '\n' ∉ line ["12", "Zoë ", " x "] ∧
          Aligned offset (line ["12", "Zoë ", " x "]) ["12", "Zoë ", " x "] := by
  intro t
  have hplain : ∀ cells ∈ t.headers :: t.rows, ∀ cell ∈ cells, IsPlain cell := by decide
  have hknown : t.text? = some "ID  NAME\n1\n\n12  Zoë    x\n" := by decide
  obtain ⟨text, line, offset, htext, hlines, -, hrows⟩ := columns_aligned t hplain
  obtain rfl : text = "ID  NAME\n1\n\n12  Zoë    x\n" := Option.some.inj (htext.symm.trans hknown)
  obtain ⟨hline, -, haligned⟩ := hrows ["12", "Zoë ", " x "] (by simp [t])
  exact ⟨hplain, hknown, line, offset, hlines, hline, haligned⟩

end SigningConsole.Table

import SigningConsole.Proofs.TableContents
/-!
The pages into which a table cuts its rows.

A table that counts its own rows (`CountsRows`) has as many pages as its rows need, and turning to
each of them in order shows every row once (`KeyTable.pages_cut_rows`). Between the first page and
the last one the page of number `n` is what stands behind `n - 1` pages of rows
(`CountsRows.displayed_turnTo`). Indexes beyond 64 bits are taken for the greatest one, which no row
has, so that a page of any number is cut out between indexes of rows (`pageRange_le`).
-/

namespace SigningConsole

variable {σ : Type}

/-- The rows of pages of one size, one after the other, are the rows from the front. -/
theorem flatten_pages {α : Type} (rows : List α) (size count : Nat) :
    ((List.range' 1 count).map fun n => (rows.drop ((n - 1) * size)).take size).flatten = rows.take
      (count * size) := by
  induction count with
  | zero => simp
  | succ count ih =>
    rw [List.range'_1_concat, List.map_append, List.flatten_append, ih, Nat.succ_mul, List.take_add]
    simp

namespace KeyTable

/-! ## Indexes -/

/-- The rows of a page stand between two indexes in order, and no index is beyond the rows. -/
theorem pageRange_le (t : KeyTable) :
    t.pageRange.1 ≤ t.pageRange.2 ∧ t.pageRange.2 ≤ t.rows.length := by
  have hstart : t.pageStart ≤ maxIndex := Nat.min_le_right _ _
  unfold pageRange
  split
  · exact ⟨Nat.zero_le _, Nat.le_refl _⟩
  · split
    · exact ⟨Nat.le_refl _, Nat.zero_le _⟩
    · dsimp only
      omega

/-! ## Tables that count their rows -/

/-- The table cuts its own rows, and its total is their number, which 64 bits hold. -/
structure CountsRows (t : KeyTable) : Prop where
  ofSource : t.source = .rows
  few : t.rows.length < UInt64.size
  size : 1 ≤ t.paging.pageSize
  total : t.paging.totalCount.toNat = t.rows.length

theorem Shows.countsRows {page : KeyPage} {t : KeyTable} (h : Shows .rows page t)
    (hfew : t.rows.length < UInt64.size) :
    t.CountsRows where
  ofSource := h.ofSource
  few := hfew
  size := h.size
  total := h.totalCount_toNat hfew

namespace CountsRows

variable {t : KeyTable} (h : t.CountsRows)
include h

theorem one_le_size : 1 ≤ t.paging.pageSize.toNat := UInt64.le_iff_toNat_le.1 h.size

theorem lt_pageCount_iff (n : Nat) :
    n < t.pageCount ↔ n * t.paging.pageSize.toNat < t.rows.length := by
  have hpos := h.one_le_size
  unfold pageCount
  dsimp only
  rw [if_neg (by omega), h.total, Nat.lt_iff_add_one_le, Nat.le_div_iff_mul_le hpos, Nat.succ_mul]
  omega

/-- There are no more pages than rows. -/
theorem pageCount_le : t.pageCount ≤ t.rows.length := by
  refine Nat.le_of_not_lt fun hlt => ?_
  have hrow := (h.lt_pageCount_iff t.rows.length).1 hlt
  exact absurd (Nat.le_mul_of_pos_right t.rows.length h.one_le_size) (Nat.not_le_of_lt hrow)

/-- Rows that fit one page are shown whatever the page. -/
theorem displayed_of_fits (hfits : t.rows.length ≤ t.paging.pageSize.toNat) (p : UInt64) :
    (t.turnTo p).displayed = t.rows := by
  have hrange : (t.turnTo p).pageRange = (0, t.rows.length) := if_pos hfits
  have hturned : (t.turnTo p).source = .rows := h.ofSource
  unfold displayed
  rw [hturned]
  simp only [hrange]
  exact List.take_length

/-- Where there are more rows than one page holds, a page begins at a multiple of the page size,
unless there are not that many rows. -/
theorem pageRange_of_exceeds (hmany : t.paging.pageSize.toNat < t.rows.length) {p : UInt64}
    (hp : 1 ≤ p) {start : Nat} (hstart : start = (p.toNat - 1) * t.paging.pageSize.toNat) :
    (t.turnTo p).pageRange =
      if t.rows.length ≤ start then (0, 0)
      else (start, min (start + t.paging.pageSize.toNat) t.rows.length) := by
  have hpage : (t.turnTo p).paging.page.toNat = p.toNat :=
    (toNat_max p 1).trans (Nat.max_eq_left (UInt64.le_iff_toNat_le.1 hp))
  have hturned : (t.turnTo p).pageStart = min start maxIndex := by
    rw [pageStart, hpage, hstart]
    rfl
  have hmax : t.rows.length ≤ maxIndex := Nat.le_sub_one_of_lt h.few
  have hrows : (t.turnTo p).rows = t.rows := rfl
  have hsize : (t.turnTo p).paging.pageSize = t.paging.pageSize := rfl
  unfold pageRange
  rw [hturned, hrows, hsize, if_neg (Nat.not_le_of_lt hmany)]
  by_cases hend : t.rows.length ≤ start
  · rw [if_pos hend, if_pos (Nat.le_min.2 ⟨hend, hmax⟩)]
  · -- the page begins at a row, so that no index here is beyond 64 bits but perhaps the last one
    have hwithin : min start maxIndex = start := by omega
    have hlast : min (min (start + t.paging.pageSize.toNat) maxIndex) t.rows.length =
        min (start + t.paging.pageSize.toNat) t.rows.length := by omega
    rw [if_neg hend, hwithin, if_neg hend, hlast]

/-- Other rows are cut at multiples of the page size. -/
theorem displayed_of_exceeds (hmany : t.paging.pageSize.toNat < t.rows.length) {p : UInt64}
    (hp : 1 ≤ p) :
    (t.turnTo p).displayed = (t.rows.drop ((p.toNat - 1) * t.paging.pageSize.toNat)).take
      t.paging.pageSize.toNat := by
  have hrange := h.pageRange_of_exceeds hmany hp rfl
  have hturned : (t.turnTo p).source = .rows := h.ofSource
  have hrows : (t.turnTo p).rows = t.rows := rfl
  unfold displayed
  rw [hturned]
  dsimp only
  rw [hrange, hrows]
  generalize (p.toNat - 1) * t.paging.pageSize.toNat = start
  by_cases hend : t.rows.length ≤ start
  · rw [if_pos hend, List.drop_of_length_le hend, List.take_nil]
    rfl
  · rw [if_neg hend]
    show (t.rows.drop start).take (min (start + t.paging.pageSize.toNat) t.rows.length - start) = _
    rw [List.take_eq_take_iff, List.length_drop]
    omega

/-- The page of a number within the count stands behind the pages before it. -/
theorem displayed_turnTo {p : UInt64} (hp : 1 ≤ p) (hcount : p.toNat ≤ t.pageCount) :
    (t.turnTo p).displayed = (t.rows.drop ((p.toNat - 1) * t.paging.pageSize.toNat)).take
      t.paging.pageSize.toNat := by
  by_cases hfits : t.rows.length ≤ t.paging.pageSize.toNat
  · -- one page holds all rows, so this is the first one
    have hone : ¬ 1 < t.pageCount := by
      rw [h.lt_pageCount_iff]
      omega
    have hfirst : p.toNat - 1 = 0 := by omega
    rw [h.displayed_of_fits hfits, hfirst, Nat.zero_mul, List.drop_zero,
      List.take_of_length_le hfits]
  · exact h.displayed_of_exceeds (Nat.lt_of_not_le hfits) hp

/-- The pages in order are the rows in order. -/
theorem flatten_displayed :
    ((List.range' 1 t.pageCount).map
      fun n => (t.turnTo (.ofNat n)).displayed).flatten = t.rows := by
  have hpages : (List.range' 1 t.pageCount).map (fun n => (t.turnTo (.ofNat n)).displayed) =
      (List.range' 1 t.pageCount).map fun n =>
        (t.rows.drop ((n - 1) * t.paging.pageSize.toNat)).take t.paging.pageSize.toNat := by
    refine List.map_congr_left fun n hn => ?_
    have hn := List.mem_range'_1.1 hn
    have hcount := h.pageCount_le
    have hnat : (UInt64.ofNat n).toNat = n := UInt64.toNat_ofNat_of_lt' (by have := h.few; omega)
    have hpage := h.displayed_turnTo (UInt64.le_iff_toNat_le.2 (by rw [hnat]; exact hn.1))
      (by rw [hnat]; omega)
    rw [hpage, hnat]
  have hall : t.rows.length ≤ t.pageCount * t.paging.pageSize.toNat :=
    Nat.le_of_not_lt fun hlt => Nat.lt_irrefl _ ((h.lt_pageCount_iff _).2 hlt)
  rw [hpages, flatten_pages, List.take_of_length_le hall]

/-- A page of a number within the count has rows, and is full unless it is the last one. -/
theorem length_displayed {p : UInt64} (hp : 1 ≤ p) (hcount : p.toNat ≤ t.pageCount) :
    (t.turnTo p).displayed ≠ [] ∧ (t.turnTo p).displayed.length ≤ t.paging.pageSize.toNat ∧
      (p.toNat < t.pageCount → (t.turnTo p).displayed.length = t.paging.pageSize.toNat) := by
  have hp' : 1 ≤ p.toNat := UInt64.le_iff_toNat_le.1 hp
  have hpos := h.one_le_size
  have hlength : (t.turnTo p).displayed.length =
      min t.paging.pageSize.toNat (t.rows.length - (p.toNat - 1) * t.paging.pageSize.toNat) := by
    rw [h.displayed_turnTo hp hcount, List.length_take, List.length_drop]
  have hrow : (p.toNat - 1) * t.paging.pageSize.toNat < t.rows.length :=
    (h.lt_pageCount_iff _).1 (by omega)
  refine ⟨List.ne_nil_of_length_pos (by omega), by omega, fun hlt => ?_⟩
  have hnext : (p.toNat - 1 + 1) * t.paging.pageSize.toNat < t.rows.length :=
    (h.lt_pageCount_iff _).1 (by omega)
  rw [Nat.succ_mul] at hnext
  omega

/-- Where there is more than one page, there is nothing behind the last one. -/
theorem displayed_beyond (hmany : t.paging.pageSize.toNat < t.rows.length) {p : UInt64}
    (hp : t.pageCount < p.toNat) :
    (t.turnTo p).displayed = [] := by
  have hone : 1 ≤ p := UInt64.le_iff_toNat_le.2 (show 1 ≤ p.toNat by omega)
  have hend : ¬ p.toNat - 1 < t.pageCount := by omega
  rw [h.lt_pageCount_iff] at hend
  rw [h.displayed_of_exceeds hmany hone, List.drop_of_length_le (Nat.le_of_not_lt hend),
    List.take_nil]

end CountsRows

/-- Whatever was done with a table that counts its own rows, turning to its pages in order shows
its rows in order, each once. No page is empty, all but the last one are full, and where there
is more than one page nothing is shown behind the last one. A page of any number is cut out
between indexes of rows. -/
theorem pages_cut_rows (calls : KeyCalls σ) (visibility : Visibility)
    (operations : List TableOperation) (w : σ) :
    After (performAll calls operations (empty visibility .rows)) (w, []) fun t _ =>
      t.rows.length < UInt64.size →
      let size := t.paging.pageSize.toNat
      t.pageCount < UInt64.size ∧
      ((List.range' 1 t.pageCount).map fun n => (t.turnTo (.ofNat n)).displayed).flatten = t.rows ∧
      (∀ p : UInt64, 1 ≤ p → p.toNat ≤ t.pageCount →
        (t.turnTo p).displayed ≠ [] ∧ (t.turnTo p).displayed.length ≤ size ∧
          (p.toNat < t.pageCount → (t.turnTo p).displayed.length = size)) ∧
      (size < t.rows.length → ∀ p : UInt64, t.pageCount < p.toNat → (t.turnTo p).displayed = []) ∧
      ∀ p : UInt64, (t.turnTo p).pageRange.1 ≤ (t.turnTo p).pageRange.2 ∧
        (t.turnTo p).pageRange.2 ≤ t.rows.length := by
  refine (performAll_after calls operations (empty visibility .rows) (w, [])).mono
    fun t w' ht hfew => ?_
  obtain ⟨events, -, rfl⟩ := ht
  have hshows := (shows_empty visibility .rows).foldl events
  generalize events.foldl after (empty visibility .rows) = t at hshows hfew
  intro size
  have hcounts : t.CountsRows := hshows.countsRows hfew
  exact ⟨Nat.lt_of_le_of_lt hcounts.pageCount_le hfew, hcounts.flatten_displayed,
    fun _ hp hle => hcounts.length_displayed hp hle, fun hmany _ hbeyond => hcounts.displayed_beyond
      hmany hbeyond,
    fun p => (t.turnTo p).pageRange_le⟩

/-- Three rows on pages of two: the second page is not full, and a third one has nothing to show. -/
theorem three_rows_on_two_pages :
    let key (id : Int32) : KeyRecord :=
      ⟨id, "", "", .pub, 1, ∅, "pgp", none, "", none, "", "", .enabled, none, none, none⟩
    let calls : KeyCalls Unit := ⟨fun _ => pure ⟨[key 1, key 2, key 3], {}⟩⟩
    let t := ((performAll calls [.act (.change (.resize 2)), .fetch] (empty .pub .rows)).run
      ((), [])).1
    t.rows.length < UInt64.size ∧ t.pageCount = 2 ∧ (t.turnTo 1).displayed = [key 1, key 2] ∧
      (t.turnTo 1).displayed ++ (t.turnTo 2).displayed = t.rows ∧ (t.turnTo 3).displayed = [] := by
  intro key calls t
  have hfew : t.rows.length < UInt64.size := by decide
  obtain ⟨-, hall, -, hbehind, -⟩ :=
    pages_cut_rows calls .pub [.act (.change (.resize 2)), .fetch] () hfew
  have hcount : t.pageCount = 2 := by decide
  refine ⟨hfew, hcount, by decide, ?_, hbehind (by decide) 3 (by decide)⟩
  rw [← hall, hcount]
  rfl

end KeyTable

end SigningConsole

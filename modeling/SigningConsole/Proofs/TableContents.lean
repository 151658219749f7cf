import SigningConsole.Proofs.TableFetches
/-!
What a table holds after any operations: the last page that it took.

Rows, counts and total come from one page, and only taking a page replaces them; changes of page and
search touch none of the three. `KeyTable.Shows` says which page a table shows, with what is true of
its paging, and is kept by each event for the page that was taken last (`Shows.after`). The pages
that a table takes are found by following it through what happened (`KeyTable.taken`), so that a
page counts as taken just when `apply` says so.

Main statements: `FamilyCounts.of_ofKeys`, `Shows.foldl`, `KeyTable.table_shows_last_page`.
-/

namespace SigningConsole

variable {σ : Type}

/-! ## Families -/

/-- The types of the backend that belong to a family. -/
def KeyFamily.types : KeyFamily → List String
  | pgp => ["pgp"]
  | x509 => ["x509", "x509ca", "x509ica", "x509ee"]

theorem KeyFamily.ofType?_eq_some {type : String} {f : KeyFamily} :
    ofType? type = some f ↔ type ∈ f.types := by
  have hfamilies : ofType? type = some f ↔ (type, f) ∈ families := by
    constructor
    · intro h
      obtain ⟨before, after, hsplit, -⟩ := List.lookup_eq_some_iff.1 h
      rw [hsplit]
      exact List.mem_append_right _ List.mem_cons_self
    · intro h
      simp only [families, List.mem_cons, Prod.mk.injEq, List.not_mem_nil, or_false] at h
      rcases h with ⟨rfl, rfl⟩ | ⟨rfl, rfl⟩ | ⟨rfl, rfl⟩ | ⟨rfl, rfl⟩ | ⟨rfl, rfl⟩ <;> rfl
  rw [hfamilies]
  cases f <;> simp [families, types]

namespace FamilyCounts

/-- One more key counts for the family of its type. -/
theorem of_add (f : KeyFamily) (c : FamilyCounts) (k : KeyRecord) :
    (c.add k).of f = c.of f + if k.keyType ∈ f.types then 1 else 0 := by
  have hfamily : k.family? = some f ↔ k.keyType ∈ f.types := KeyFamily.ofType?_eq_some
  unfold add
  cases hk : k.family? with
  | none =>
    rw [if_neg (by rw [← hfamily, hk]; exact Option.some_ne_none f |>.symm)]
    rfl
  | some g =>
    by_cases hg : g = f
    · rw [if_pos (hfamily.1 (by rw [hk, hg])), hg]
      cases f <;> rfl
    · rw [if_neg (by rw [← hfamily, hk, Option.some.injEq]; exact hg)]
      cases f <;> cases g <;> first | rfl | exact absurd rfl hg

theorem of_foldl_add (f : KeyFamily) (c : FamilyCounts) (keys : List KeyRecord) :
    (keys.foldl add c).of f = c.of f + keys.countP (·.keyType ∈ f.types) := by
  induction keys generalizing c with
  | nil => rfl
  | cons k keys ih =>
    rw [List.foldl_cons, ih, of_add, List.countP_cons]
    simp only [decide_eq_true_eq]
    omega

/-- The count of a family is the number of keys whose type belongs to it. -/
theorem of_ofKeys (f : KeyFamily) (keys : List KeyRecord) :
    (ofKeys keys).of f = keys.countP (·.keyType ∈ f.types) := by
  unfold ofKeys
  rw [of_foldl_add]
  cases f <;> exact Nat.zero_add _

/-- No type belongs to both families. -/
theorem ofKeys_le_length (keys : List KeyRecord) :
    (ofKeys keys).pgp + (ofKeys keys).x509 ≤ keys.length := by
  have hone : ∀ (c : FamilyCounts) (k : KeyRecord), (c.add k).pgp + (c.add k).x509 ≤
      c.pgp + c.x509 + 1 := by
    intro c k
    unfold add
    split
    · exact Nat.le_of_eq (Nat.add_right_comm _ _ _)
    · exact Nat.le_refl _
    · exact Nat.le_succ _
  have hfold : ∀ (c : FamilyCounts), (keys.foldl add c).pgp + (keys.foldl add c).x509 ≤
      c.pgp + c.x509 + keys.length := by
    induction keys with
    | nil => exact fun c => Nat.le_refl _
    | cons k keys ih =>
      intro c
      have hrest := ih (c.add k)
      have hfirst := hone c k
      rw [List.foldl_cons, List.length_cons]
      omega
  have hall := hfold {}
  simpa [ofKeys] using hall

end FamilyCounts

/-! ## Operations -/

/-- What is done with a table: an action, or a fetch of the current page. -/
inductive TableOperation where
  | act (action : TableAction)
  | fetch

namespace KeyTable

/-- Performs an operation, with a note of what happens. -/
def perform (calls : KeyCalls σ) (t : KeyTable) :
    TableOperation → StateM (σ × List TableEvent) KeyTable
  | .act action => do
    Part.second.modify (· ++ [.acted action])
    return t.step action
  | .fetch => Prod.snd <$> t.fetch calls.noted

/-- The table after operations in order. -/
def performAll (calls : KeyCalls σ) (operations : List TableOperation) (t : KeyTable) :
    StateM (σ × List TableEvent) KeyTable :=
  operations.foldlM (perform calls) t

/-- What an event makes of the table. -/
def after (t : KeyTable) : TableEvent → KeyTable
  | .acted action => t.step action
  | .asked _ reply => t.receive reply

/-- The page that the table takes in an event. -/
def taken? (t : KeyTable) : TableEvent → Option KeyPage
  | .acted (.answer ticket page) => if (t.apply ticket page).2 then some page else none
  | .asked _ (.ok page) => if (t.apply t.ticket page).2 then some page else none
  | _ => none

/-- The pages that the table takes in the course of events. -/
def taken (t : KeyTable) : List TableEvent → List KeyPage
  | [] => []
  | e :: rest => (t.taken? e).toList ++ (t.after e).taken rest

/-- An operation causes one event, and the table is what the event makes of it. -/
theorem perform_after (calls : KeyCalls σ) (t : KeyTable) (operation : TableOperation)
    (w : σ × List TableEvent) :
    After (t.perform calls operation) w fun t' w' => ∃ e, w'.2 = w.2 ++ [e] ∧ t' = t.after e := by
  cases operation with
  | act action => exact ⟨.acted action, rfl, rfl⟩
  | fetch =>
    refine After.map_iff.2 ((t.fetch_asks calls w).mono fun r w' hr => ?_)
    obtain ⟨reply, hw', rfl⟩ := hr
    exact ⟨.asked t.query reply, hw', rfl⟩

theorem performAll_after (calls : KeyCalls σ) (operations : List TableOperation) (t : KeyTable)
    (w : σ × List TableEvent) :
    After (performAll calls operations t) w fun t' w' =>
      ∃ events, w'.2 = w.2 ++ events ∧ t' = events.foldl after t := by
  induction operations generalizing t w with
  | nil => exact ⟨[], (List.append_nil _).symm, rfl⟩
  | cons operation rest ih =>
    unfold performAll
    rw [List.foldlM_cons]
    refine (t.perform_after calls operation w).bind fun t₁ w₁ h₁ => ?_
    obtain ⟨e, hw₁, rfl⟩ := h₁
    refine (ih (t.after e) w₁).mono fun t' w' h' => ?_
    obtain ⟨events, hw', rfl⟩ := h'
    exact ⟨e :: events, by rw [hw', hw₁, List.append_assoc]; rfl, rfl⟩

/-! ## What a table shows -/

theorem toNat_max (m n : UInt64) : (max m n).toNat = max m.toNat n.toNat := by
  show (if m ≤ n then n else m).toNat = max m.toNat n.toNat
  split
  · next h => exact (Nat.max_eq_right (UInt64.le_iff_toNat_le.1 h)).symm
  · next h => exact (Nat.max_eq_left (Nat.le_of_not_le (mt UInt64.le_iff_toNat_le.2 h))).symm

theorem one_le_max (n : UInt64) : 1 ≤ max n 1 := by
  rw [UInt64.le_iff_toNat_le, toNat_max]
  exact Nat.le_max_right _ _

/-- The table shows a page: rows, counts and total are those of the page, and it is turned to some
page of some size. -/
structure Shows (source : TotalFrom) (page : KeyPage) (t : KeyTable) : Prop where
  ofSource : t.source = source
  first : 1 ≤ t.paging.page
  size : 1 ≤ t.paging.pageSize
  rows : t.rows = page.keys
  counts : t.counts = .ofKeys page.keys
  totalOfServer : source = .server → t.paging.totalCount = page.info.totalCount
  totalOfRows : source = .rows → t.paging.totalCount = .ofNat page.keys.length

/-- Where nothing was taken yet, the table shows the empty page. -/
theorem shows_empty (visibility : Visibility) (source : TotalFrom) :
    Shows source {} (empty visibility source) where
  ofSource := rfl
  first := UInt64.le_refl 1
  size := show (1 : UInt64) ≤ 10 by decide
  rows := rfl
  counts := rfl
  totalOfServer _ := rfl
  totalOfRows _ := rfl

namespace Shows

variable {source : TotalFrom} {page : KeyPage} {t : KeyTable}

theorem install (h : Shows source page t) (next : KeyPage) :
    Shows source next (t.install next) where
  ofSource := h.ofSource
  first := h.first
  size := h.size
  rows := rfl
  counts := rfl
  totalOfServer hs := by
    have ht : t.source = .server := h.ofSource.trans hs
    simp only [KeyTable.install, ht]
  totalOfRows hs := by
    have ht : t.source = .rows := h.ofSource.trans hs
    simp only [KeyTable.install, ht]

/-- A page is shown from when it is taken on. -/
theorem apply (h : Shows source page t) (ticket : PageTicket) (next : KeyPage) :
    Shows source ((if (t.apply ticket next).2 then some next else none).getD page)
      (t.apply ticket next).1 := by
  by_cases hg : ticket.generation = t.generation
  · rw [apply_of_eq hg]
    exact h.install next
  · rw [apply_of_ne hg]
    exact h

/-- A change puts numbers from 1 on into the paging, and leaves the page that is shown. -/
theorem make (h : Shows source page t) (c : TableChange) : Shows source page (t.make c) where
  ofSource := by cases c <;> exact h.ofSource
  first := by
    cases c with
    | turnTo n => exact one_le_max n
    | _ => exact UInt64.le_refl 1
  size := by
    cases c with
    | resize n => exact one_le_max n
    | _ => exact h.size
  rows := by cases c <;> exact h.rows
  counts := by cases c <;> exact h.counts
  totalOfServer hs := by cases c <;> exact h.totalOfServer hs
  totalOfRows hs := by cases c <;> exact h.totalOfRows hs

theorem after (h : Shows source page t) (e : TableEvent) :
    Shows source ((t.taken? e).getD page) (t.after e) := by
  cases e with
  | acted action =>
    cases action with
    | change c => exact h.make c
    | begin => exact h
    | answer ticket next => exact h.apply ticket next
  | asked query reply =>
    cases reply with
    | ok next => exact h.apply t.ticket next
    | error e => exact h

/-- After events the table shows the page that was taken last. -/
theorem foldl (h : Shows source page t) (events : List TableEvent) :
    Shows source ((t.taken events).getLast?.getD page) (events.foldl KeyTable.after t) := by
  induction events generalizing t page with
  | nil => exact h
  | cons e rest ih =>
    have hlast : (t.taken (e :: rest)).getLast?.getD page =
        ((t.after e).taken rest).getLast?.getD ((t.taken? e).getD page) := by
      rw [taken, List.getLast?_append]
      cases ((t.after e).taken rest).getLast? with
      | some last => rfl
      | none => cases t.taken? e <;> rfl
    rw [hlast]
    exact ih (h.after e)

/-- A table that counts its rows has their number as its total. -/
theorem totalCount_toNat (h : Shows .rows page t) (hfew : t.rows.length < UInt64.size) :
    t.paging.totalCount.toNat = t.rows.length := by
  rw [h.rows] at hfew ⊢
  rw [h.totalOfRows rfl, UInt64.toNat_ofNat_of_lt' hfew]

end Shows

/-- Whatever was done with a table, its paging is in order and it shows the last page that it
took, or the empty page: rows and counts are those of the page, and the total is the page's own or
the number of rows. Changes of the search or of the page size leave all three as they are and turn
to the first page. -/
theorem table_shows_last_page (calls : KeyCalls σ) (visibility : Visibility) (source : TotalFrom)
    (operations : List TableOperation) (w : σ) :
    After (performAll calls operations (empty visibility source)) (w, []) fun t w' =>
      let last := ((empty visibility source).taken w'.2).getLast?.getD {}
      t = w'.2.foldl after (empty visibility source) ∧
      (1 ≤ t.paging.page ∧ 1 ≤ t.paging.pageSize) ∧ t.rows = last.keys ∧
      (∀ f : KeyFamily, t.counts.of f = t.rows.countP (·.keyType ∈ f.types)) ∧
      t.counts.pgp + t.counts.x509 ≤ t.rows.length ∧
      (source = .server → t.paging.totalCount = last.info.totalCount) ∧
      (source = .rows → t.rows.length < UInt64.size → t.paging.totalCount.toNat = t.rows.length) ∧
      ∀ (text : String) (field : KeyField) (size : UInt64),
        ∀ t' ∈ [t.searchFor text, t.setField field, t.resize size],
          t'.rows = t.rows ∧ t'.counts = t.counts ∧ t'.paging.totalCount = t.paging.totalCount ∧
            t'.paging.page = 1 := by
  refine (performAll_after calls operations (empty visibility source) (w, [])).mono
    fun t w' ht => ?_
  obtain ⟨events, hw', rfl⟩ := ht
  obtain rfl : w'.2 = events := hw'
  have hshows := (shows_empty visibility source).foldl w'.2
  have hcounts : ∀ f : KeyFamily, ((w'.2.foldl after (empty visibility source)).counts).of f =
      (w'.2.foldl after (empty visibility source)).rows.countP (·.keyType ∈ f.types) := by
    intro f
    rw [hshows.counts, hshows.rows, FamilyCounts.of_ofKeys]
  refine ⟨rfl, ⟨hshows.first, hshows.size⟩, hshows.rows, hcounts, ?_, hshows.totalOfServer, ?_, ?_⟩
  · rw [hshows.counts, hshows.rows]
    exact FamilyCounts.ofKeys_le_length _
  · rintro rfl
    exact hshows.totalCount_toNat
  · intro text field size t' ht'
    simp only [List.mem_cons, List.not_mem_nil, or_false] at ht'
    rcases ht' with rfl | rfl | rfl <;> exact ⟨rfl, rfl, rfl, rfl⟩

end KeyTable

end SigningConsole

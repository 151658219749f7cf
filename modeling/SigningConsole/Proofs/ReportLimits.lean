import SigningConsole.Proofs.ShownTimestamps
import SigningConsole.Report.Records
/-!
What a report cannot show: the ends of the calendar and of 64 bits.

A timestamp is shown eight hours later than it is written, so that one in the last eight hours of
the calendar has no text (`Report.timestamp?_eq_none_iff`). Such a year has a sign and six digits,
hence only the plain UTC form gets there. A table of counts needs their sum, which is kept in 64
bits while it is taken (`Report.totalOf?_eq_foldlM`); it is there just when the whole sum fits, and
has one row for each count.

Main statements: `Report.missing_iff_past_limits`, `Report.past_limits_missing`.
-/

namespace SigningConsole.Report

open Calendar Text Calendar.Instant Calendar.Reader

variable {raw : String} {pairs : List (String × Nat)}

/-! ## Timestamps -/

/-- RFC 3339 ends long before the calendar does. -/
theorem seconds_le_of_ofRfc3339? {t : Instant} (h : ofRfc3339? raw = some t) :
    t.seconds + displayOffset ≤ maxSecond := by
  have hmax : maxSecond = 8210266876799 := rfl
  have hoffset : displayOffset = 28800 := rfl
  have hyear : yearStart 10000 = 2932897 := by decide
  have hlt := lt_of_strict (eq_ok_of_toOption h)
  omega

/-- There is nothing to show just for a text in the plain UTC form that lies in the last eight
hours. -/
theorem timestamp?_eq_none_iff : timestamp? raw = none ↔
    ofRfc3339? raw = none ∧ ∃ t, ofUtcText? raw = some t ∧
      maxSecond < t.seconds + displayOffset := by
  constructor
  · intro h
    have hne : raw ≠ "" := by
      rintro rfl
      cases h
    cases hread : readTimestamp? raw with
    | none =>
      rw [timestamp?_of_not_read hne hread] at h
      cases h
    | some t =>
      rw [timestamp?_of_read hread, Option.map_eq_none_iff, consoleText?_eq_none_iff] at h
      cases hstrict : ofRfc3339? raw with
      | none =>
        rw [readTimestamp?, hstrict] at hread
        exact ⟨rfl, t, hread, h⟩
      | some u =>
        rw [readTimestamp?, hstrict] at hread
        cases hread
        have hle := seconds_le_of_ofRfc3339? hstrict
        omega
  · rintro ⟨hstrict, t, hplain, hlate⟩
    have hread : readTimestamp? raw = some t := by
      rw [readTimestamp?, hstrict, hplain]
      rfl
    rw [timestamp?_of_read hread, consoleText?_eq_none_iff.2 hlate]
    rfl

/-! ## Counts -/

/-- A sum with a further count, if it still fits 64 bits. -/
def addCount? (total n : Nat) : Option Nat :=
  if total + n ≤ maxUInt64 then some (total + n) else none

/-- The sum of counts, however great. -/
def sumOf : List (String × Nat) → Nat
  | [] => 0
  | e :: pairs => e.2 + sumOf pairs

theorem foldl_add_eq (pairs : List (String × Nat)) (total : Nat) :
    pairs.foldl (fun total e => total + e.2) total = total + sumOf pairs := by
  induction pairs generalizing total with
  | nil => rfl
  | cons e pairs ih =>
    rw [List.foldl_cons, ih, sumOf]
    omega

theorem totalOf?_eq (pairs : List (String × Nat)) :
    totalOf? pairs = if sumOf pairs ≤ maxUInt64 then some (sumOf pairs) else none := by
  have hsum := foldl_add_eq pairs 0
  rw [Nat.zero_add] at hsum
  show (if pairs.foldl (fun total e => total + e.2) 0 ≤ maxUInt64 then
    some (pairs.foldl (fun total e => total + e.2) 0) else none) = _
  rw [hsum]

/-- Counts that are added one after the other fit 64 bits all the way just when their sum does. -/
theorem foldlM_addCount? (pairs : List (String × Nat)) {total : Nat} (h : total ≤ maxUInt64) :
    pairs.foldlM (fun total e => addCount? total e.2) total =
      if total + sumOf pairs ≤ maxUInt64 then some (total + sumOf pairs) else none := by
  induction pairs generalizing total with
  | nil =>
    show some total = if total + 0 ≤ maxUInt64 then some (total + 0) else none
    rw [if_pos (by omega), Nat.add_zero]
  | cons e pairs ih =>
    rw [List.foldlM_cons, sumOf]
    unfold addCount?
    by_cases hle : total + e.2 ≤ maxUInt64
    · rw [if_pos hle, ← Nat.add_assoc]
      exact ih hle
    · rw [if_neg hle, if_neg (by omega)]
      rfl

theorem totalOf?_eq_foldlM (pairs : List (String × Nat)) :
    totalOf? pairs = pairs.foldlM (fun total e => addCount? total e.2) 0 := by
  rw [totalOf?_eq, foldlM_addCount? pairs (Nat.zero_le _), Nat.zero_add]

theorem shareTable?_eq_none_iff : shareTable? pairs = none ↔ maxUInt64 < sumOf pairs := by
  unfold shareTable?
  rw [totalOf?_eq, Option.map_eq_none_iff]
  split
  · next h => exact iff_of_false nofun (by omega)
  · next h => exact iff_of_true rfl (by omega)

/-- Each row has the label and the count of its pair. -/
theorem rows_of_shareTable? {table : Table} (h : shareTable? pairs = some table) :
    table.rows.map (·.take 2) = pairs.map fun e => [e.1, grouped e.2] := by
  obtain ⟨total, -, rfl⟩ := Option.map_eq_some_iff.1 h
  show (pairs.map _).map _ = _
  rw [List.map_map]
  rfl

/-! ## Both -/

/-- Nothing is shown just for a timestamp in the last eight hours of the calendar and for counts
whose sum does not fit 64 bits. Any other text that is no timestamp is shown as it is, and any other
counts in a row each. -/
theorem missing_iff_past_limits (raw : String) (v : Json) :
    (timestamp? raw = none ↔
      ofRfc3339? raw = none ∧ ∃ t, ofUtcText? raw = some t ∧
        maxSecond < t.seconds + displayOffset) ∧
    (raw ≠ "" → readTimestamp? raw = none → timestamp? raw = some raw) ∧
    (totalOf? (counts v) = (counts v).foldlM (fun total e => addCount? total e.2) 0) ∧
    (shareTable? (counts v) = none ↔ maxUInt64 < sumOf (counts v)) ∧
    ∀ table, shareTable? (counts v) = some table →
      table.rows.length = (counts v).length ∧
        table.rows.map (·.take 2) = (counts v).map fun e => [e.1, grouped e.2] := by
  refine ⟨timestamp?_eq_none_iff, timestamp?_of_not_read, totalOf?_eq_foldlM _,
    shareTable?_eq_none_iff, fun table h => ?_⟩
  have hrows := rows_of_shareTable? h
  have hlength := congrArg List.length hrows
  rw [List.length_map, List.length_map] at hlength
  exact ⟨hlength, hrows⟩

/-- The last second with a local time is shown, and counts that reach the greatest sum have their
rows. -/
theorem limits_reached :
    let v : Json := .obj [("acme", .int 18446744073709551614), ("other", .int 1)]
    readTimestamp? "262142-12-31 15:59:59 UTC" = none ∧
      timestamp? "262142-12-31 15:59:59 UTC" = some "262142-12-31 15:59:59 UTC" ∧
      timestamp? "+262142-12-31 15:59:59 UTC" ≠ none ∧
      ∃ table, shareTable? (counts v) = some table ∧ table.rows.length = 2 := by
  intro v
  have hforeign : readTimestamp? "262142-12-31 15:59:59 UTC" = none := by decide +kernel
  have hcounts : counts v = [("acme", 18446744073709551614), ("other", 1)] := by rfl
  obtain ⟨-, hshown, -, -, -⟩ := missing_iff_past_limits "262142-12-31 15:59:59 UTC" v
  obtain ⟨hmissing, -, -, htable, hrows⟩ := missing_iff_past_limits "+262142-12-31 15:59:59 UTC" v
  refine ⟨hforeign, hshown (by decide) hforeign, fun hnone => ?_, ?_⟩
  · obtain ⟨-, t, hread, hlate⟩ := hmissing.1 hnone
    have hlast : ofUtcText? "+262142-12-31 15:59:59 UTC" = of? 8210266847999 0 := by decide +kernel
    have hseconds := (of?_eq_some (hlast.symm.trans hread)).1
    rw [hseconds] at hlate
    exact absurd hlate (by decide)
  · cases hfound : shareTable? (counts v) with
    | none =>
      have hgreat := htable.1 hfound
      rw [hcounts] at hgreat
      exact absurd hgreat (by decide)
    | some table =>
      have hlength := (hrows table hfound).1
      rw [hcounts] at hlength
      exact ⟨table, rfl, hlength⟩

/-- A timestamp of the last evening is read and not shown, not even as it is; and two counts are
too great together. -/
theorem past_limits_missing :
    let raw := "+262142-12-31 20:00:00 UTC"
    let v : Json := .obj [("a", .int 18446744073709551615), ("b", .int 1)]
    ¬ (∃ shown, timestamp? raw = some shown) ∧ ¬ timestamp? raw = some raw ∧
      counts v = [("a", 18446744073709551615), ("b", 1)] ∧
      ¬ ∃ table, shareTable? (counts v) = some table := by
  intro raw v
  have hmissing : timestamp? raw = none := by decide +kernel
  have hcounts : counts v = [("a", 18446744073709551615), ("b", 1)] := by rfl
  have htable : shareTable? (counts v) = none := shareTable?_eq_none_iff.2 (by rw [hcounts]; decide)
  rw [hmissing, htable]
  exact ⟨nofun, nofun, hcounts, nofun⟩

end SigningConsole.Report

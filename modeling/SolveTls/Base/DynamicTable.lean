import Mathlib.Data.List.Basic
import Mathlib.Tactic.Ring

/-! Bounded tables that forget their oldest entries, and how resizings compose. -/

namespace DynamicTable

open List

variable {α : Type} (size : α → Nat)

/-- The room a list of entries takes. -/
def total (entries : List α) : Nat := (entries.map size).sum

/-- Drop entries from the front of an oldest-first list until the rest fits the limit. -/
def dropUntil (limit : Nat) : List α → List α
  | [] => []
  | oldest :: newer =>
    if total size (oldest :: newer) ≤ limit then oldest :: newer else dropUntil limit newer

/-- Drop the oldest entries of a newest-first table until it fits the limit. -/
def shrink (limit : Nat) (entries : List α) : List α := (dropUntil size limit entries.reverse).reverse

/-- Put a new entry first, making room by dropping the oldest ones. -/
def insert (limit : Nat) (entries : List α) (entry : α) : List α :=
  shrink size limit (entry :: entries)

theorem total_cons (entry : α) (entries : List α) :
    total size (entry :: entries) = size entry + total size entries := rfl

/-- Entries that fit all stay. -/
theorem dropUntil_of_le {limit : Nat} {entries : List α} (fits : total size entries ≤ limit) :
    dropUntil size limit entries = entries := by
  -- Without entries there is nothing to drop; otherwise the check passes at the first one.
  cases entries with
  | nil => rfl
  | cons oldest newer => simp only [dropUntil, if_pos fits]

/-- Dropping twice drops as much as dropping once to the smaller limit. -/
theorem dropUntil_dropUntil (first second : Nat) (entries : List α) :
    dropUntil size second (dropUntil size first entries) =
      dropUntil size (min second first) entries := by
  -- The induction is on the entries, oldest first.
  induction entries with
  | nil => rfl
  | cons oldest newer ih =>
    by_cases kept : total size (oldest :: newer) ≤ first
    · -- Everything survives the first limit, so only the second one matters.
      have rest : total size newer ≤ first := by
        rw [total_cons] at kept
        omega
      rw [dropUntil_of_le size rest] at ih
      rw [dropUntil_of_le size kept]
      by_cases fits : total size (oldest :: newer) ≤ second
      · rw [dropUntil_of_le size fits, dropUntil_of_le size (Nat.le_min.mpr ⟨fits, kept⟩)]
      · have excess : ¬ total size (oldest :: newer) ≤ min second first := by omega
        simp only [dropUntil, if_neg fits, if_neg excess, ih]
    · have excess : ¬ total size (oldest :: newer) ≤ min second first := by omega
      simp only [dropUntil, if_neg kept, if_neg excess, ih]

/-- Shrinking a table twice leaves what shrinking it to the smaller size leaves. -/
theorem shrink_shrink (first second : Nat) (entries : List α) :
    shrink size second (shrink size first entries) = shrink size (min second first) entries := by
  -- The two reversals in between cancel.
  simp only [shrink, reverse_reverse, dropUntil_dropUntil]

/-- A whole sequence of sizes evicts as much as its smallest one. -/
theorem foldl_shrink (sizes : List Nat) (smallest : Nat) (entries : List α) :
    sizes.foldl (fun table limit => shrink size limit table) (shrink size smallest entries) =
      shrink size (sizes.foldl min smallest) entries := by
  -- The induction is on the sizes; each step lowers the smallest one so far.
  induction sizes generalizing smallest with
  | nil => rfl
  | cons limit rest ih => rw [foldl_cons, foldl_cons, shrink_shrink, ih, Nat.min_comm]

/-- A table together with the size it must not exceed. -/
@[ext] structure Table (α : Type) where
  entries : List α := []
  limit : Nat
  deriving DecidableEq, Repr

/-- Give the table a new limit, dropping what no longer fits. -/
def Table.resize (table : Table α) (limit : Nat) : Table α where
  entries := shrink size limit table.entries
  limit

/-- Go through a sequence of limits. -/
def Table.resizeAll (table : Table α) (limits : List Nat) : Table α :=
  limits.foldl (Table.resize size) table

/-- Insert entries one after another. -/
def Table.insertAll (table : Table α) (added : List α) : Table α :=
  { table with entries := added.foldl (insert size table.limit) table.entries }

theorem Table.resizeAll_append (table : Table α) (limits more : List Nat) :
    table.resizeAll size (limits ++ more) = (table.resizeAll size limits).resizeAll size more :=
  foldl_append ..

theorem Table.resizeAll_entries (table : Table α) (limits : List Nat) :
    (table.resizeAll size limits).entries =
      limits.foldl (fun entries limit => shrink size limit entries) table.entries := by
  -- The induction is on the limits; the table changes with each of them.
  induction limits generalizing table with
  | nil => rfl
  | cons limit rest ih => exact ih (table.resize size limit)

theorem Table.resizeAll_limit (table : Table α) (limits : List Nat) :
    (table.resizeAll size limits).limit = limits.getLast?.getD table.limit := by
  -- The induction is on the limits; only the last one is left in the end.
  induction limits generalizing table with
  | nil => rfl
  | cons limit rest ih =>
    rw [getLast?_cons, Option.getD_some]
    exact ih (table.resize size limit)

/-- Going through the smallest and the final limit is as good as going through all of them. -/
theorem Table.resizeAll_extremes (table : Table α) {limits : List Nat} {smallest final : Nat}
    (least : limits.min? = some smallest) (last : limits.getLast? = some final) :
    table.resizeAll size limits = table.resizeAll size [smallest, final] := by
  cases limits with
  | nil => cases least
  | cons limit rest =>
    have minimum := least
    rw [min?_cons', Option.some.injEq] at minimum
    -- The final limit is one of them, so the smallest one is below it.
    have below : smallest ≤ final :=
      (min?_eq_some_iff.mp least).2 final (mem_of_getLast? last)
    have entries : (table.resizeAll size (limit :: rest)).entries =
        (table.resizeAll size [smallest, final]).entries := by
      rw [resizeAll_entries, resizeAll_entries, foldl_cons, foldl_shrink, minimum]
      simp only [foldl_cons, foldl_nil, shrink_shrink, Nat.min_eq_right below]
    have limits : (table.resizeAll size (limit :: rest)).limit =
        (table.resizeAll size [smallest, final]).limit := by
      rw [resizeAll_limit, last]
      rfl
    exact Table.ext entries limits

/-- Announcing a limit twice in a row is as good as announcing it once. -/
theorem Table.resizeAll_twice (table : Table α) (limit : Nat) :
    table.resizeAll size [limit, limit] = table.resizeAll size [limit] := by
  -- The second time nothing is left to evict.
  simp only [Table.resizeAll, foldl_cons, foldl_nil, Table.resize, shrink_shrink,
    Nat.min_self]

end DynamicTable

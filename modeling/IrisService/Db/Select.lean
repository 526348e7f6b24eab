import IrisService.Db.Schema
import IrisService.Library.Like
import IrisService.Library.Pages
import Mathlib.Data.List.Sort
import Mathlib.Order.Basic

/-! SELECT statements: a table is scanned in no particular order, `WHERE` keeps the rows for which its condition is
true, `ORDER BY` sorts by the primary key, `OFFSET` and `LIMIT` cut. -/

namespace IrisService
open ReadCommitted

/-- The tables as one statement scans them. -/
structure Scan (v : View Row) where
  rows : (t : Table) → List (Nat × Row t)
  perm : ∀ t, (rows t).Perm (select v t)

/-- `x OR y`; `none` is NULL. -/
def sqlOr : Option Bool → Option Bool → Option Bool
  | some true, _ => some true
  | _, some true => some true
  | some false, some false => some false
  | _, _ => none

/-- The metacharacters of a pattern without an ESCAPE clause. -/
def likeMetas : Like.Metas Char where
  run := '%'
  one := '_'
  escape := '\\'
  run_ne_escape := by decide

/-- `text LIKE pattern` -/
def like (text : Option String) (pattern : String) : Option Bool :=
  text.map fun t => likeMetas.like t.toList pattern.toList

variable {α : Type}

/-- `WHERE`: a row for which the condition is null is not selected. -/
def filterWhere (condition : α → Option Bool) (rows : List α) : List α := rows.filter fun r => condition r = some true

/-- `ORDER BY`, a key read from the identity. -/
def orderBy {κ : Type} [LinearOrder κ] (key : Nat → κ) (rows : List (Nat × α)) : List (Nat × α) :=
  rows.mergeSort fun a b => key a.1 ≤ key b.1

/-- `ORDER BY id` -/
def orderById (rows : List (Nat × α)) : List (Nat × α) := orderBy id rows

/-- `ORDER BY id DESC` -/
def orderByIdDesc (rows : List (Nat × α)) : List (Nat × α) := orderBy OrderDual.toDual rows

/-- `OFFSET … LIMIT …` -/
def offsetLimit (rows : List α) (offset limit : Nat) : List α := (rows.drop offset).take limit

/-! ### Primary keys -/

section Keys
variable {v : View Row} {rows : List (Nat × α)}

theorem sqlOr_eq_true {x y : Option Bool} : sqlOr x y = some true ↔ x = some true ∨ y = some true := by
  rcases x with _ | _ | _ <;> rcases y with _ | _ | _ <;> simp [sqlOr]

theorem keys_select (v : View Row) (t : Table) : ((select v t).map Prod.fst).Nodup := by
  have hfilter : (select v t).map Prod.fst = (List.range (v.seq t)).filter fun id => (v.rows t id).isSome := by
    rw [select, List.map_filterMap, ← List.filterMap_eq_filter]
    congr 1
    funext id
    cases h : v.rows t id <;> simp [Option.guard, h]
  rw [hfilter]
  exact List.nodup_range.filter _

theorem Scan.keys (scan : Scan v) (t : Table) : ((scan.rows t).map Prod.fst).Nodup :=
  ((scan.perm t).map Prod.fst).nodup_iff.mpr (keys_select v t)

theorem Scan.mem_rows (scan : Scan v) (hused : v.Used) {t : Table} {x : Nat × Row t} :
    x ∈ scan.rows t ↔ v.rows t x.1 = some x.2 := by
  rw [(scan.perm t).mem_iff]
  exact ⟨fun h => mem_select h, fun h => mem_select_of_row (hused t x.1 x.2 h) h⟩

theorem keys_filter (h : (rows.map Prod.fst).Nodup) (p : Nat × α → Bool) : ((rows.filter p).map Prod.fst).Nodup :=
  h.sublist (List.filter_sublist.map _)

theorem mem_filterWhere {condition : α → Option Bool} {l : List α} {x : α} :
    x ∈ filterWhere condition l ↔ x ∈ l ∧ condition x = some true := by
  simp [filterWhere]

end Keys

/-! ### Pages -/

section Pages
open Pages
variable {κ : Type} [LinearOrder κ] {key : Nat → κ} {rows rows' : List (Nat × α)}

theorem pairwise_orderBy (hkey : key.Injective) (h : (rows.map Prod.fst).Nodup) :
    (orderBy key rows).Pairwise fun a b => key a.1 < key b.1 := by
  have hsorted : (orderBy key rows).Pairwise fun a b => decide (key a.1 ≤ key b.1) = true :=
    List.pairwise_mergeSort (fun a b c => by simpa using le_trans) (fun a b => by simpa using le_total (key a.1) (key b.1))
      rows
  have hkeys : ((orderBy key rows).map Prod.fst).Nodup := ((List.mergeSort_perm _ _).map _).nodup_iff.mpr h
  rw [List.Nodup, List.pairwise_map] at hkeys
  refine (hsorted.and hkeys).imp fun {a b} hboth => ?_
  exact lt_of_le_of_ne (by simpa using hboth.1) (hkey.ne hboth.2)

/-- The order of the rows found does not show in the answer. -/
theorem orderBy_perm (hkey : key.Injective) (h : rows.Perm rows') (hkeys : (rows.map Prod.fst).Nodup) :
    orderBy key rows = orderBy key rows' := by
  have hperm : (orderBy key rows).Perm (orderBy key rows') :=
    (List.mergeSort_perm _ _).trans (h.trans (List.mergeSort_perm _ _).symm)
  have hkeys' := (h.map Prod.fst).nodup_iff.mp hkeys
  exact hperm.eq_of_pairwise (fun a b _ _ hab hba => absurd hab (lt_asymm hba)) (pairwise_orderBy hkey hkeys)
    (pairwise_orderBy hkey hkeys')

variable {found : Nat → List (Nat × α)} {matching : Set (Nat × α)} {size : Nat}

/-- The pages of one statement; the query for page `k` finds the matching rows as `found k`. -/
theorem paginates_orderBy (hkey : key.Injective) (hsize : 0 < size) (hkeys : ∀ k, ((found k).map Prod.fst).Nodup)
    (hmem : ∀ k x, x ∈ found k ↔ x ∈ matching) :
    Paginates (fun a b => key a.1 < key b.1) matching size
      (fun k => offsetLimit (orderBy key (found k)) (k * size) size) fun k => (found k).length := by
  have hperm : ∀ k, (found k).Perm (found 0) := fun k =>
    (List.perm_ext_iff_of_nodup (hkeys k).of_map (hkeys 0).of_map).mpr fun x => (hmem k x).trans (hmem 0 x).symm
  refine .of_list hsize (fun x => ?_) (pairwise_orderBy hkey (hkeys 0)) (fun x => lt_irrefl _) (fun k => ?_) (fun k => ?_)
  · rw [← hmem 0]
    exact (List.mergeSort_perm _ _).mem_iff
  · rw [orderBy_perm hkey (hperm k) (hkeys k)]
    rfl
  · rw [(hperm k).length_eq]
    exact (List.mergeSort_perm _ _).length_eq.symm

theorem paginates_orderById (hsize : 0 < size) (hkeys : ∀ k, ((found k).map Prod.fst).Nodup)
    (hmem : ∀ k x, x ∈ found k ↔ x ∈ matching) :
    Paginates (fun a b => a.1 < b.1) matching size (fun k => offsetLimit (orderById (found k)) (k * size) size)
      fun k => (found k).length :=
  paginates_orderBy Function.injective_id hsize hkeys hmem

theorem paginates_orderByIdDesc (hsize : 0 < size) (hkeys : ∀ k, ((found k).map Prod.fst).Nodup)
    (hmem : ∀ k x, x ∈ found k ↔ x ∈ matching) :
    Paginates (fun a b => b.1 < a.1) matching size (fun k => offsetLimit (orderByIdDesc (found k)) (k * size) size)
      fun k => (found k).length :=
  paginates_orderBy OrderDual.toDual.injective hsize hkeys hmem

end Pages

end IrisService

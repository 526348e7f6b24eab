/-! Python's `datetime`, to the microsecond. -/

namespace IrisService

/-- The wall clock in microseconds since 0001-01-01 00:00, and the offset from UTC of an aware value. -/
structure DateTime where
  wall : Nat
  utcoffset : Option Int
  deriving DecidableEq, Repr

namespace DateTime

/-- Microseconds of UTC since 0001-01-01 00:00; a naive value is taken as UTC. -/
def utc (d : DateTime) : Int := d.wall - d.utcoffset.getD 0

/-- Microseconds since the epoch. -/
def timestamp (d : DateTime) : Int := d.utc - 62135596800 * 1000000

/-- `int(d.timestamp())`, which rounds towards zero. -/
def seconds (d : DateTime) : Int := d.timestamp.tdiv 1000000

/-- `d + timedelta(seconds=seconds)` -/
def addSeconds (d : DateTime) (seconds : Nat) : DateTime := { d with wall := d.wall + seconds * 1000000 }

/-- `timedelta(days=1)`, in microseconds. -/
def day : Nat := 86400 * 1000000

/-- `(d - since).days`, which rounds down. -/
def daysSince (d since : DateTime) : Int := (d.utc - since.utc) / day

/-- `d.toordinal()`: the number of the day on the wall. -/
def toordinal (d : DateTime) : Nat := d.wall / day + 1

/-- A naive value marked as UTC. -/
def ensureUtc (d : DateTime) : DateTime :=
  match d.utcoffset with
  | none => { d with utcoffset := some 0 }
  | some _ => d

@[simp] theorem utc_ensureUtc (d : DateTime) : d.ensureUtc.utc = d.utc := by
  unfold ensureUtc
  split
  · rename_i hnaive
    simp [utc, hnaive]
  · rfl

@[simp] theorem daysSince_ensureUtc (d since : DateTime) : d.daysSince since.ensureUtc = d.daysSince since := by
  rw [daysSince, utc_ensureUtc, daysSince]

/-- What a loop keeps that only takes a better instant: one of those it saw, of the largest key. -/
theorem foldl_best (better : DateTime → DateTime → Prop) [DecidableRel better] {key : DateTime → Int}
    (hbetter : ∀ best d, better best d ↔ key best < key d) (d : DateTime) (ds : List DateTime) :
    ds.foldl (fun best d => if better best d then d else best) d ∈ d :: ds ∧
      ∀ x ∈ d :: ds, key x ≤ key (ds.foldl (fun best d => if better best d then d else best) d) := by
  induction ds generalizing d with
  | nil => simp
  | cons d' ds ih =>
    obtain ⟨hmem, hle⟩ := ih (if better d d' then d' else d)
    rw [List.foldl_cons]
    by_cases hlt : better d d'
    · rw [if_pos hlt] at hmem hle ⊢
      refine ⟨List.mem_cons_of_mem d hmem, List.forall_mem_cons.mpr ⟨?_, hle⟩⟩
      exact Int.le_trans (Int.le_of_lt ((hbetter d d').mp hlt)) (hle d' List.mem_cons_self)
    · rw [if_neg hlt] at hmem hle ⊢
      obtain ⟨hd, hds⟩ := List.forall_mem_cons.mp hle
      refine ⟨?_, List.forall_mem_cons.mpr ⟨hd, List.forall_mem_cons.mpr ⟨?_, hds⟩⟩⟩
      · rcases List.mem_cons.mp hmem with heq | hmem
        · rw [heq]
          exact List.mem_cons_self
        · exact List.mem_cons_of_mem d (List.mem_cons_of_mem d' hmem)
      · exact Int.le_trans (Int.not_lt.mp fun h => hlt ((hbetter d d').mpr h)) hd

/-- `max` of some instants; the first of equal ones. -/
def latest : List DateTime → Option DateTime
  | [] => none
  | d :: ds => some (ds.foldl (fun best d => if best.utc < d.utc then d else best) d)

/-- No instant of the list is later. -/
theorem latest_spec {ds : List DateTime} {best : DateTime} (h : latest ds = some best) :
    best ∈ ds ∧ ∀ d ∈ ds, d.utc ≤ best.utc := by
  cases ds with
  | nil => cases h
  | cons d ds =>
    cases h
    exact foldl_best (fun best d => best.utc < d.utc) (fun _ _ => Iff.rfl) d ds

theorem latest_eq_none_iff {ds : List DateTime} : latest ds = none ↔ ds = [] := by
  cases ds <;> simp [latest]

/-- The instants of two lists with the same members are as late. -/
theorem utc_latest_eq {ds ds' : List DateTime} {best best' : DateTime} (h : latest ds = some best)
    (h' : latest ds' = some best') (hmem : ∀ u, (∃ d ∈ ds, d.utc = u) ↔ ∃ d ∈ ds', d.utc = u) :
    best.utc = best'.utc := by
  obtain ⟨hbest, hle⟩ := latest_spec h
  obtain ⟨hbest', hle'⟩ := latest_spec h'
  obtain ⟨d', hd', heq'⟩ := (hmem best.utc).mp ⟨best, hbest, rfl⟩
  obtain ⟨d, hd, heq⟩ := (hmem best'.utc).mpr ⟨best', hbest', rfl⟩
  exact Int.le_antisymm (heq' ▸ hle' d' hd') (heq ▸ hle d hd)

/-- `min` of some instants; the first of equal ones. -/
def earliest : List DateTime → Option DateTime
  | [] => none
  | d :: ds => some (ds.foldl (fun best d => if d.utc < best.utc then d else best) d)

/-- No instant of the list is earlier. -/
theorem earliest_spec {ds : List DateTime} {best : DateTime} (h : earliest ds = some best) :
    best ∈ ds ∧ ∀ d ∈ ds, best.utc ≤ d.utc := by
  cases ds with
  | nil => cases h
  | cons d ds =>
    cases h
    have hnegated : ∀ best d : DateTime, d.utc < best.utc ↔ -best.utc < -d.utc := fun best d => by omega
    obtain ⟨hmem, hle⟩ := foldl_best (fun best d => d.utc < best.utc) hnegated d ds
    exact ⟨hmem, fun x hx => Int.neg_le_neg_iff.mp (hle x hx)⟩

end DateTime

end IrisService

import IrisService.Library.ReadCommitted
import IrisService.Library.Runs

/-! Parts of a store that some of its clients keep to themselves.

These clients read and write rows of the part only, and the others write none of them. Whatever the others do, a run
then looks to the clients of the part as if the others had done nothing, but for the identities that they have used up. -/

namespace ReadCommitted
open Runs

variable {T : Type} {Row : T → Type} {S ε : Type}

/-- A part of the store and the clients that it belongs to. -/
structure Division (Row : T → Type) (S : Type) where
  part : (t : T) → Nat → Row t → Bool
  mine : Nat → Bool
  /-- The states that client `i` may be in. -/
  ok : Nat → S → Prop
  /-- A client in this state has seen the row on its own side. -/
  knows : S → T → Nat → Prop
  /-- The identities below were given out before. -/
  floor : T → Nat

/-- The rows of the part that a statement sees. -/
def View.within (v : View Row) (part : (t : T) → Nat → Row t → Bool) : View Row :=
  ⟨fun t id => (v.rows t id).filter (part t id), v.seq⟩

section Within
variable {part : (t : T) → Nat → Row t → Bool} {v : View Row} {t : T} {id : Nat}

@[simp] theorem View.within_seq : (v.within part).seq = v.seq := rfl

theorem View.within_of_part (h : ∀ r, v.rows t id = some r → part t id r = true) :
    (v.within part).rows t id = v.rows t id := by
  unfold View.within
  cases hrow : v.rows t id with
  | none => simp only [hrow, Option.filter_none]
  | some r => simp only [hrow, Option.filter_some_pos (h r hrow)]

end Within

namespace Division
variable (D : Division Row S)

/-- The rows that the state knows are on the side of client `i`. -/
def Aware (i : Nat) (s : S) (v : View Row) : Prop :=
  ∀ t id r, D.knows s t id → v.rows t id = some r → D.part t id r = D.mine i

/-- What the next state knows is known already, or is there to see. -/
def Learns (i : Nat) (s : S) (v : View Row) (s' : S) : Prop :=
  ∀ t id, D.knows s' t id → D.knows s t id ∨ ∃ r, v.rows t id = some r ∧ D.part t id r = D.mine i

end Division

/-- The rows that the action is on, and those that it makes of them, are on the side `side` of the part. -/
def Action.StaysOn (part : (t : T) → Nat → Row t → Bool) (side : Bool) (v : View Row) : Action Row S → Prop
  | .insert t row _ => part t (v.seq t) (row (v.seq t)) = side
  | .write cs _ => ∀ c ∈ cs, (∀ r, v.rows c.table c.id = some r → part c.table c.id r = side) ∧
      ∀ r, c.row = some r → part c.table c.id r = side
  | _ => True

/-- What the client may come to know by the action. -/
def Action.Learns (D : Division Row S) (i : Nat) (s : S) (v : View Row) : Action Row S → Prop
  | .next s' | .write _ s' | .commit s' | .rollback s' => D.Learns i s v s'
  | .insert t _ s' => ∀ t' id, D.knows (s' (v.seq t)) t' id → (t' = t ∧ id = v.seq t) ∨ D.knows s t' id

/-- Each client keeps to its side, and those of the part read nothing else. -/
structure Program.Respects (p : Program Row S ε) (D : Division Row S) : Prop where
  act_ok : ∀ i e s v, D.ok i s → (p.act e s v).All (D.ok i)
  fail_ok : ∀ i s, D.ok i s → D.ok i (p.fail s)
  keeps : ∀ i e s v, D.ok i s → (∀ t, D.floor t ≤ v.seq t) → D.Aware i s v → (p.act e s v).StaysOn D.part (D.mine i) v
  learns : ∀ i e s v, D.ok i s → (p.act e s v).Learns D i s v
  forgets : ∀ s t id, D.knows (p.fail s) t id → D.knows s t id
  reads : ∀ i e s v, D.mine i = true → D.ok i s → D.Aware i s v → p.act e s (v.within D.part) = p.act e s v

/-! ### The run as the part sees it -/

/-- An event, or an identity of `t` that somebody has used up. -/
inductive Seen (T ε : Type) where
  | event (e : Event ε)
  | taken (t : T)

/-- The event, if it is one. -/
def Seen.event? : Seen T ε → Option (Event ε)
  | .event e => some e
  | .taken _ => none

namespace Db

/-- The identities that the event uses up. -/
def spent (p : Program Row S ε) (d : Db Row S) : Event ε → List T
  | .step i e => match p.act e (d.client i).state (d.view i) with
    | .insert t _ _ => [t]
    | _ => []
  | .fail _ => []

/-- What is left of the event for the clients that `mine` tells. -/
def seen (p : Program Row S ε) (mine : Nat → Bool) (d : Db Row S) (e : Event ε) : List (Seen T ε) :=
  if mine e.client then [.event e] else (d.spent p e).map .taken

variable [DecidableEq T]

/-- What a client's division sees of the run. -/
def follow (p : Program Row S ε) (d : Db Row S) : Seen T ε → Db Row S
  | .event e => d.step p e
  | .taken t => { d with seq := Function.update d.seq t (d.seq t + 1) }

/-- What is left of a run for the clients that `mine` tells. -/
def seenBy (p : Program Row S ε) (mine : Nat → Bool) : Db Row S → List (Event ε) → List (Seen T ε)
  | _, [] => []
  | d, e :: es => d.seen p mine e ++ (d.step p e).seenBy p mine es

/-- All their own events are left, and no others. -/
theorem filterMap_seenBy (p : Program Row S ε) (mine : Nat → Bool) (d : Db Row S) (es : List (Event ε)) :
    (d.seenBy p mine es).filterMap Seen.event? = es.filter fun e => mine e.client := by
  induction es generalizing d with
  | nil => rfl
  | cons e es ih =>
    rw [seenBy, List.filterMap_append, ih, List.filter_cons]
    unfold seen
    split
    · rfl
    · rw [List.filterMap_map]
      exact congrArg (· ++ _) (List.filterMap_eq_nil_iff.mpr fun t _ => rfl)

end Db

/-! ### Sides -/

/-- Every row that a client has changed or knows of is on the client's side in all its versions. -/
structure Db.Sided (D : Division Row S) (d : Db Row S) : Prop where
  wf : d.Wf
  floor : ∀ t, D.floor t ≤ d.seq t
  ok : ∀ i, D.ok i (d.client i).state
  own : ∀ i t id r, (d.client i).writes t id ≠ none → d.Version t id r → D.part t id r = D.mine i
  known : ∀ i t id, D.knows (d.client i).state t id → id < d.seq t ∧ ∀ r, d.Version t id r → D.part t id r = D.mine i

namespace Db.Sided
variable {D : Division Row S} {d d' : Db Row S} {i j : Nat} {a : Action Row S} {t : T} {id : Nat} {r : Row t}

theorem start {committed : Rows Row} {seq : T → Nat} {state : Nat → S} (hfresh : ∀ t id, seq t ≤ id → committed t id = none)
    (hfloor : ∀ t, D.floor t ≤ seq t) (hok : ∀ i, D.ok i (state i)) (hknows : ∀ i t id, ¬D.knows (state i) t id) :
    (Db.start committed seq state).Sided D where
  wf := Wf.start hfresh
  floor := hfloor
  ok := hok
  own _ _ _ _ hw := absurd rfl hw
  known i t id hknown := absurd hknown (hknows i t id)

theorem aware (h : d.Sided D) (i : Nat) : D.Aware i (d.client i).state (d.view i) := fun t id r hknown hrow =>
  (h.known i t id hknown).2 r (version_of_view hrow)

/-- A fresh identity has no versions. -/
theorem version_lt (h : d.Sided D) (hr : d.Version t id r) : id < d.seq t := by
  by_contra hid
  rcases hr with hc | ⟨j, hj⟩
  · rw [(h.wf.fresh t id (Nat.not_lt.mp hid)).1] at hc
    cases hc
  · rw [h.wf.writes_fresh (Nat.not_lt.mp hid)] at hj
    cases hj

/-- All versions of a row that the client may write are on its side if the one it sees is. -/
theorem version_of_writable (h : d.Sided D) {c : Change Row} (hwritable : d.writable i c = true)
    (hside : ∀ r, (d.view i).rows c.table c.id = some r → D.part c.table c.id r = D.mine i) {r : Row c.table}
    (hr : d.Version c.table c.id r) : D.part c.table c.id r = D.mine i := by
  simp only [writable, Bool.and_eq_true] at hwritable
  by_cases hw : (d.client i).writes c.table c.id = none
  · rcases hr with hc | ⟨j, hj⟩
    · refine hside r ?_
      rwa [view_rows, Writes.onto_of_none hw]
    · have hlock := (h.wf.owner j c.table c.id).mp (by rw [hj]; simp)
      have hj' : j = i := by simpa [hlock] using hwritable.2
      rw [hj', hw] at hj
      cases hj
  · exact h.own i _ _ r hw hr

/-- All versions of a row that a client sees are on one side. -/
theorem version_of_seen (h : d.Sided D) (hrow : (d.view i).rows t id = some r) {r' : Row t} (hr' : d.Version t id r') :
    D.part t id r' = D.part t id r := by
  have hr : d.Version t id r := version_of_view hrow
  by_cases hw : ∃ j, (d.client j).writes t id ≠ none
  · obtain ⟨j, hj⟩ := hw
    rw [h.own j t id r hj hr, h.own j t id r' hj hr']
  · have hcommitted : ∀ r, d.Version t id r → d.committed t id = some r := by
      rintro r (hc | ⟨j, hj⟩)
      · exact hc
      · exact absurd ⟨j, by rw [hj]; simp⟩ hw
    have hsame : some r' = some r := (hcommitted r' hr').symm.trans (hcommitted r hr)
    rw [Option.some.inj hsame]

variable [DecidableEq T]

/-- A version that a step leaves was there before, or it is one of its client's side, of a row that was new or had all
    its versions there. -/
theorem version_perform (h : d.Sided D) (ha : a.StaysOn D.part (D.mine i) (d.view i))
    (hr : (d.perform i a).Version t id r) :
    d.Version t id r ∨ D.part t id r = D.mine i ∧ (d.lock t id = none ∨ d.lock t id = some i) ∧
      (id < d.seq t → (∃ r₀, d.Version t id r₀) ∧ ∀ r₀, d.Version t id r₀ → D.part t id r₀ = D.mine i) := by
  rcases perform_version hr with hold | ⟨row, s, rfl, rfl, rfl⟩ | ⟨cs, s, rfl, hmem⟩
  · exact Or.inl hold
  · exact Or.inr ⟨ha, Or.inl (h.wf.fresh t _ (Nat.le_refl _)).2, fun hlt => absurd hlt (Nat.lt_irrefl _)⟩
  · by_cases hall : cs.all (d.writable i) = true
    · have hwritable := List.all_eq_true.mp hall _ hmem
      have hside := (ha _ hmem).1
      refine Or.inr ⟨(ha _ hmem).2 r rfl, ?_, fun _ => ⟨?_, fun r₀ => h.version_of_writable hwritable hside⟩⟩
      · simp only [writable, Bool.and_eq_true] at hwritable
        cases hlock : d.lock t id with
        | none => exact Or.inl rfl
        | some j =>
          rw [hlock] at hwritable
          exact Or.inr (congrArg some (by simpa using hwritable.2))
      · simp only [writable, Bool.and_eq_true] at hwritable
        obtain ⟨r₀, hr₀⟩ := Option.isSome_iff_exists.mp hwritable.1
        exact ⟨r₀, version_of_view hr₀⟩
    · simp only [perform, if_neg hall] at hr
      exact Or.inl hr

theorem own_perform (h : d.Sided D) (ha : a.StaysOn D.part (D.mine i) (d.view i))
    (hw : ((d.perform i a).client j).writes t id ≠ none) (hr : (d.perform i a).Version t id r) :
    D.part t id r = D.mine j := by
  by_cases hold : (d.client j).writes t id = none
  · -- The step has written the row, so it is a step of client `j`.
    have hji : j = i := by
      by_contra hne
      rw [perform_client_of_ne hne] at hw
      exact hw hold
    subst hji
    rcases h.version_perform ha hr with hbefore | ⟨hside, -⟩
    · cases a with
      | insert t' row s =>
        simp only [perform, put, Function.update_self] at hw
        rcases Writes.setAll_ne_none_iff.mp hw with ⟨c, hc, hat⟩ | hw
        · obtain rfl := List.mem_singleton.mp hc
          obtain ⟨rfl, rfl⟩ := hat
          exact absurd (h.version_lt hbefore) (Nat.lt_irrefl _)
        · exact absurd hold hw
      | write cs s =>
        simp only [perform] at hw
        split at hw
        · rename_i hall
          simp only [put, Function.update_self] at hw
          rcases Writes.setAll_ne_none_iff.mp hw with ⟨c, hc, hat⟩ | hw
          · obtain ⟨rfl, rfl⟩ := hat
            exact h.version_of_writable (List.all_eq_true.mp hall c hc) (ha c hc).1 hbefore
          · exact absurd hold hw
        · exact absurd hold hw
      | next s =>
        simp only [perform, Function.update_self] at hw
        exact absurd hold hw
      | commit s => simp [perform, finish] at hw
      | rollback s => simp [perform, finish] at hw
    · exact hside
  · rcases h.version_perform ha hr with hbefore | ⟨hside, hlock, -⟩
    · exact h.own j t id r hold hbefore
    · have howner := (h.wf.owner j t id).mp hold
      have hji : j = i := by
        rcases hlock with hnone | hi
        · rw [hnone] at howner
          cases howner
        · rw [hi] at howner
          exact (Option.some.inj howner).symm
      rw [hji]
      exact hside

/-- The versions of a row that is known stay on their side. -/
theorem known_perform (h : d.Sided D) (ha : a.StaysOn D.part (D.mine i) (d.view i)) {side : Bool} (hid : id < d.seq t)
    (hside : ∀ r, d.Version t id r → D.part t id r = side) (hr : (d.perform i a).Version t id r) :
    D.part t id r = side := by
  rcases h.version_perform ha hr with hbefore | ⟨hnew, -, hold⟩
  · exact hside r hbefore
  · obtain ⟨⟨r₀, hr₀⟩, hall⟩ := hold hid
    rw [hnew, ← hall r₀ hr₀, hside r₀ hr₀]

/-- What a client knows after its step, it has known or seen, or has just inserted. -/
theorem learned (hlearns : a.Learns D i (d.client i).state (d.view i))
    (hknown : D.knows ((d.perform i a).client i).state t id) :
    D.knows (d.client i).state t id ∨ (∃ r, (d.view i).rows t id = some r ∧ D.part t id r = D.mine i) ∨
      id = d.seq t ∧ id < (d.perform i a).seq t := by
  cases a with
  | insert t' row s =>
    simp only [Db.perform, put, Function.update_self] at hknown ⊢
    rcases hlearns t id hknown with ⟨rfl, hid⟩ | hold
    · refine Or.inr (Or.inr ⟨hid, ?_⟩)
      rw [hid, Function.update_self]
      exact Nat.lt_succ_self _
    · exact Or.inl hold
  | write cs s =>
    simp only [Db.perform] at hknown
    split at hknown
    · simp only [put, Function.update_self] at hknown
      exact (hlearns t id hknown).imp_right Or.inl
    · exact Or.inl hknown
  | _ =>
    simp only [Db.perform, finish, Function.update_self] at hknown
    exact (hlearns t id hknown).imp_right Or.inl

theorem perform (h : d.Sided D) (hok : a.All (D.ok i)) (ha : a.StaysOn D.part (D.mine i) (d.view i))
    (hlearns : a.Learns D i (d.client i).state (d.view i)) : (d.perform i a).Sided D where
  wf := h.wf.perform a
  floor t := (h.floor t).trans seq_le_perform
  ok j := by
    by_cases hne : j = i
    · subst hne
      exact perform_state (h.ok j) hok
    · rw [perform_client_of_ne hne]
      exact h.ok j
  own j t id r := h.own_perform ha
  known j t id hknown := by
    -- Of a row that was there before, all versions are on the side of the client already.
    have hkeep : id < d.seq t → (∀ r, d.Version t id r → D.part t id r = D.mine j) →
        id < (d.perform i a).seq t ∧ ∀ r, (d.perform i a).Version t id r → D.part t id r = D.mine j := fun hid hside =>
      ⟨Nat.lt_of_lt_of_le hid seq_le_perform, fun r => h.known_perform ha hid hside⟩
    by_cases hne : j = i
    · subst hne
      rcases learned hlearns hknown with hold | ⟨r, hrow, hside⟩ | ⟨hid, hlt⟩
      · exact hkeep (h.known j t id hold).1 (h.known j t id hold).2
      · exact hkeep (h.version_lt (version_of_view hrow)) fun r' hr' => (h.version_of_seen hrow hr').trans hside
      · refine ⟨hlt, fun r hr => ?_⟩
        rcases h.version_perform ha hr with hold | ⟨hside, -⟩
        · exact absurd (h.version_lt hold) (by omega)
        · exact hside
    · rw [perform_client_of_ne hne] at hknown
      exact hkeep (h.known j t id hknown).1 (h.known j t id hknown).2

theorem step {p : Program Row S ε} (hp : p.Respects D) (h : d.Sided D) (e : Event ε) : (d.step p e).Sided D := by
  cases e with
  | step i e =>
    exact h.perform (hp.act_ok i e _ _ (h.ok i)) (hp.keeps i e _ _ (h.ok i) h.floor (h.aware i))
      (hp.learns i e _ _ (h.ok i))
  | fail i =>
    exact h.perform (a := .rollback _) (hp.fail_ok i _ (h.ok i)) trivial fun t id hk => Or.inl (hp.forgets _ t id hk)

theorem taken (h : d.Sided D) (t : T) : ({ d with seq := Function.update d.seq t (d.seq t + 1) } : Db Row S).Sided D := by
  have hle : ∀ t', d.seq t' ≤ Function.update d.seq t (d.seq t + 1) t' := by
    intro t'
    by_cases ht : t' = t
    · subst ht
      simp
    · rw [Function.update_of_ne ht]
  exact {
    wf := ⟨h.wf.owner, fun t' id hid => h.wf.fresh t' id ((hle t').trans hid)⟩
    floor := fun t' => (h.floor t').trans (hle t')
    ok := h.ok
    own := h.own
    known := fun i t' id hk => ⟨Nat.lt_of_lt_of_le (h.known i t' id hk).1 (hle t'), (h.known i t' id hk).2⟩ }

theorem follow {p : Program Row S ε} (hp : p.Respects D) (h : d.Sided D) (e : Seen T ε) : (d.follow p e).Sided D := by
  cases e with
  | event e => exact h.step hp e
  | taken t => exact h.taken t

end Db.Sided

/-! ### With and without the others -/

/-- The part of the store and its clients are the same in both, and nobody else has changes in the second. -/
structure Db.Alike (D : Division Row S) (d d' : Db Row S) : Prop where
  seq : d'.seq = d.seq
  client : ∀ i, D.mine i = true → d'.client i = d.client i
  quiet : ∀ i, D.mine i = false → (d'.client i).writes = .empty
  rows : ∀ t id, (d'.committed t id).filter (D.part t id) = (d.committed t id).filter (D.part t id)

namespace Db.Alike
variable {D : Division Row S} {d d' : Db Row S} {i : Nat} {a : Action Row S} {t : T} {id : Nat}

/-- A client of the part sees the same of it. -/
theorem within (h : d.Alike D d') (hmine : D.mine i = true) : (d'.view i).within D.part = (d.view i).within D.part := by
  have hrows : ∀ t id, ((d'.view i).rows t id).filter (D.part t id) = ((d.view i).rows t id).filter (D.part t id) := by
    intro t id
    rw [view_rows, view_rows, h.client i hmine]
    cases hw : (d.client i).writes t id with
    | none => rw [Writes.onto_of_none hw, Writes.onto_of_none hw, h.rows]
    | some x => rw [Writes.onto_of_some hw, Writes.onto_of_some hw]
  simp only [View.within, hrows]
  rw [show (d'.view i).seq = (d.view i).seq from h.seq]

/-- A client of the part has to wait for a row in the one store if it has to in the other. -/
theorem writable (h : d.Alike D d') (hd : d.Sided D) (hd' : d'.Wf) (hmine : D.mine i = true) {c : Change Row}
    (hside : ∀ r, (d.view i).rows c.table c.id = some r → D.part c.table c.id r = true)
    (hside' : ∀ r, (d'.view i).rows c.table c.id = some r → D.part c.table c.id r = true) :
    d'.writable i c = d.writable i c := by
  have hrow : (d'.view i).rows c.table c.id = (d.view i).rows c.table c.id := by
    have hwithin := congrFun (congrFun (congrArg View.rows (h.within hmine)) c.table) c.id
    rwa [View.within_of_part hside', View.within_of_part hside] at hwithin
  unfold Db.writable
  rw [hrow]
  cases hseen : (d.view i).rows c.table c.id with
  | none => rfl
  | some r =>
    have hlock : d'.lock c.table c.id = d.lock c.table c.id := by
      refine Option.ext fun j => ?_
      rw [← hd'.owner, ← hd.wf.owner]
      cases hj : D.mine j with
      | true => rw [h.client j hj]
      | false =>
        rw [h.quiet j hj]
        refine iff_of_false (by simp) fun hw => ?_
        have hpart : D.part c.table c.id r = D.mine j := hd.own j _ _ r hw (version_of_view hseen)
        rw [hj, hside r hseen] at hpart
        cases hpart
    rw [hlock]

variable [DecidableEq T]

/-- Both stores take the same action of a client of the part. -/
theorem perform (h : d.Alike D d') (hmine : D.mine i = true)
    (hall : ∀ cs s, a = .write cs s → cs.all (d'.writable i) = cs.all (d.writable i)) :
    (d.perform i a).Alike D (d'.perform i a) := by
  have hclient : ∀ c, ∀ j, D.mine j = true → Function.update d'.client i c j = Function.update d.client i c j := by
    intro c j hj
    by_cases hne : j = i
    · subst hne
      rw [Function.update_self, Function.update_self]
    · rw [Function.update_of_ne hne, Function.update_of_ne hne, h.client j hj]
  have hquiet : ∀ c, ∀ j, D.mine j = false → (Function.update d'.client i c j).writes = .empty := by
    intro c j hj
    have hne : j ≠ i := by
      rintro rfl
      rw [hmine] at hj
      cases hj
    rw [Function.update_of_ne hne]
    exact h.quiet j hj
  have hwrites : (d'.client i).writes = (d.client i).writes := by rw [h.client i hmine]
  cases a with
  | next s =>
    simp only [Db.perform, hwrites]
    exact ⟨h.seq, hclient _, hquiet _, h.rows⟩
  | insert t row s =>
    simp only [Db.perform, Db.put, hwrites, h.seq]
    exact ⟨rfl, hclient _, hquiet _, h.rows⟩
  | write cs s =>
    simp only [Db.perform, hall cs s rfl]
    split
    · simp only [Db.put, hwrites]
      exact ⟨h.seq, hclient _, hquiet _, h.rows⟩
    · exact h
  | commit s =>
    refine ⟨h.seq, hclient _, hquiet _, fun t id => ?_⟩
    exact congrFun (congrFun (congrArg View.rows (h.within hmine)) t) id
  | rollback s => exact ⟨h.seq, hclient _, hquiet _, h.rows⟩

variable {p : Program Row S ε}

theorem step_mine (hp : p.Respects D) (h : d.Alike D d') (hd : d.Sided D) (hd' : d'.Sided D) {e : Event ε}
    (hmine : D.mine e.client = true) : (d.step p e).Alike D (d'.step p e) := by
  cases e with
  | fail i =>
    have hmine : D.mine i = true := hmine
    have hstate : (d'.client i).state = (d.client i).state := by rw [h.client i hmine]
    simp only [Db.step, hstate]
    exact h.perform hmine fun _ _ hw => by cases hw
  | step i e =>
    have hmine : D.mine i = true := hmine
    have hstate : (d'.client i).state = (d.client i).state := by rw [h.client i hmine]
    have haware' : D.Aware i (d.client i).state (d'.view i) := hstate ▸ hd'.aware i
    -- What the client reads is in the part, so both stores answer the same.
    have hact : p.act e (d.client i).state (d'.view i) = p.act e (d.client i).state (d.view i) := by
      rw [← hp.reads i e _ _ hmine (hd.ok i) haware', h.within hmine, hp.reads i e _ _ hmine (hd.ok i) (hd.aware i)]
    have hkeeps := hp.keeps i e _ _ (hd.ok i) hd.floor (hd.aware i)
    have hkeeps' := hp.keeps i e _ _ (hd.ok i) hd'.floor haware'
    rw [hact] at hkeeps'
    simp only [Db.step, hstate, hact]
    refine h.perform hmine fun cs s hw => ?_
    rw [hw, hmine] at hkeeps hkeeps'
    rw [Bool.eq_iff_iff, List.all_eq_true, List.all_eq_true]
    exact forall₂_congr fun c hc => by rw [h.writable hd hd'.wf hmine (hkeeps c hc).1 (hkeeps' c hc).1]

/-- The part of the committed rows is left alone by a client that is not of it. -/
theorem committed_other (hd : d.Sided D) (hother : D.mine i = false) (t : T) (id : Nat) :
    ((d.perform i a).committed t id).filter (D.part t id) = (d.committed t id).filter (D.part t id) := by
  cases a with
  | commit s =>
    show (((d.client i).writes.onto d.committed) t id).filter _ = _
    cases hw : (d.client i).writes t id with
    | none => rw [Writes.onto_of_none hw]
    | some x =>
      have hside : ∀ r, d.Version t id r → D.part t id r = false := fun r hr =>
        (hd.own i t id r (by rw [hw]; simp) hr).trans hother
      have hout : ∀ y : Option (Row t), (∀ r, y = some r → d.Version t id r) → y.filter (D.part t id) = none := by
        rintro (_ | r) hy
        · rfl
        · exact Option.filter_some_neg (hside r (hy r rfl))
      rw [Writes.onto_of_some hw, hout x fun r hr => Or.inr ⟨i, by rw [hw, hr]⟩, hout _ fun r hr => Or.inl hr]
  | _ => rw [perform_committed (by simp)]

theorem step_other (h : d.Alike D d') (hd : d.Sided D) {e : Event ε} (hother : D.mine e.client = false) :
    (d.step p e).Alike D (run (Db.follow p) d' (d.seen p D.mine e)) := by
  have hclient : ∀ i, D.mine i = true → d'.client i = (d.step p e).client i := by
    intro i hi
    rw [step_client_of_ne, h.client i hi]
    rintro rfl
    rw [hother] at hi
    cases hi
  rw [Db.seen, hother]
  cases e with
  | fail i =>
    have hrows := committed_other (a := .rollback (p.fail (d.client i).state)) hd hother
    exact ⟨h.seq, hclient, h.quiet, fun t id => (h.rows t id).trans (hrows t id).symm⟩
  | step i e =>
    have hrows : ∀ t id, (d'.committed t id).filter (D.part t id) =
      ((d.step p (.step i e)).committed t id).filter (D.part t id) :=
      fun t id => (h.rows t id).trans (committed_other hd hother t id).symm
    cases ha : p.act e (d.client i).state (d.view i) with
    | insert t row s =>
      simp only [Db.spent, ha]
      refine ⟨?_, hclient, h.quiet, hrows⟩
      show Function.update d'.seq t (d'.seq t + 1) = _
      rw [h.seq]
      simp only [Db.step, ha, Db.perform]
    | _ =>
      simp only [Db.spent, ha]
      refine ⟨?_, hclient, h.quiet, hrows⟩
      simp only [Db.step, ha]
      rw [perform_seq (by simp)]
      exact h.seq

/-- To the clients of the part a run is the one in which only they take steps and the others use up identities. -/
theorem afterRun (hp : p.Respects D) (h : d.Alike D d') (hd : d.Sided D) (hd' : d'.Sided D) (es : List (Event ε)) :
    (run (Db.step p) d es).Alike D (run (Db.follow p) d' (d.seenBy p D.mine es)) := by
  induction es generalizing d d' with
  | nil => exact h
  | cons e es ih =>
    rw [Db.seenBy, run_append]
    have hnext : (d.step p e).Alike D (run (Db.follow p) d' (d.seen p D.mine e)) := by
      cases hmine : D.mine e.client with
      | true =>
        unfold Db.seen
        rw [if_pos hmine]
        exact h.step_mine hp hd hd' hmine
      | false => exact h.step_other hd hmine
    refine ih hnext (hd.step hp e) ?_
    exact (meets_true d' (d.seen p D.mine e)).run hd' fun d'' x hd'' _ => hd''.follow hp x

end Db.Alike

end ReadCommitted

import IrisService.Auth.Handlers

/-! What one step of a login or of a refresh does to the registry of tokens: an inversion of `act`. -/

namespace IrisService.Auth
open ReadCommitted Orders

/-- Client `i` takes a step at time `now`. -/
def turn (deps : Deps) (d : State) (e : Nat × DateTime) : State := step deps d (.step e.1 e.2)

/-- The token that the call draws. -/
def Session.jtis : Session → Jtis
  | .login _ _ jtis _ => jtis
  | .refresh _ jtis _ => jtis

/-- The call has not inserted its token yet. -/
def Session.pending : Session → Bool
  | .login _ _ _ .start | .login _ _ _ (.checked _) => true
  | .refresh _ _ .start | .refresh _ _ (.decoded _) | .refresh _ _ (.checked _ _ _) | .refresh _ _ (.revoked _) => true
  | _ => false

/-- The refresh token that the call has found usable and has not committed yet. -/
def Session.inHand : Session → Option String
  | .refresh token _ (.checked _ _ _) | .refresh token _ (.revoked _) | .refresh token _ (.flushed _)
  | .refresh token _ (.answered _) => some token
  | _ => none

/-- The same, for good. -/
def Session.holds : Session → Option String
  | .refresh token _ (.done (.tokens _)) => some token
  | s => s.inHand

/-- A token that a SELECT at time `now` finds usable. -/
def Usable (v : View Row) (now : DateTime) (token : String) : Prop :=
  ∃ id record, v.rows .refreshToken id = some record ∧ RefreshToken.token record = token ∧
    RefreshToken.revoked record = false ∧ ¬(RefreshToken.expiresAt record).utc < now.utc

/-- A row that a call with these `uuid4` values inserts. -/
def Minted (deps : Deps) (jtis : Jtis) (row : RefreshToken) : Prop :=
  row.revoked = false ∧ ∃ c, c.type = .refresh ∧ c.jti = jtis.refresh ∧ row.token = deps.jwt.encode c

/-- What makes a refresh fail with something else than a 401. -/
inductive Crash (deps : Deps) (now : DateTime) (v : View Row) (token : String) (jtis : Jtis) : Refresh → Prop
  | undecodable {exc} (h : decodeToken deps.jwt now token .refresh = .error (.raised exc)) :
      Crash deps now v token jtis .start
  | several {claims id id' r r'} (hne : id ≠ id') (hr : v.rows .refreshToken id = some r)
      (ht : RefreshToken.token r = token)
      (hr' : v.rows .refreshToken id' = some r') (ht' : RefreshToken.token r' = token) :
      Crash deps now v token jtis (.decoded claims)
  | stale {claims id record} (h : v.rows .refreshToken id = none) : Crash deps now v token jtis (.checked claims id record)
  | key {claims} (h : ¬∃ username role, claims "sub" = some (.str username) ∧ claims "role" = some role) :
      Crash deps now v token jtis (.revoked claims)
  | taken {claims id r row} (h : Minted deps jtis row) (hr : v.rows .refreshToken id = some r)
      (ht : RefreshToken.token r = row.token) : Crash deps now v token jtis (.revoked claims)

/-- The steps of a refresh, each with what it has checked. -/
inductive Turns (deps : Deps) (now : DateTime) (v : View Row) : Session → Action Row Session → Prop
  | ended {token jtis a} : Turns deps now v (.refresh token jtis (.done a)) (.next (.refresh token jtis (.done a)))
  | decode {token jtis claims} (h : decodeToken deps.jwt now token .refresh = .ok claims) :
      Turns deps now v (.refresh token jtis .start) (.next (.refresh token jtis (.decoded claims)))
  | select {token jtis claims id record} (hrow : v.rows .refreshToken id = some record)
      (htoken : RefreshToken.token record = token) (hlive : RefreshToken.revoked record = false)
      (hexpires : ¬(RefreshToken.expiresAt record).utc < now.utc) :
      Turns deps now v (.refresh token jtis (.decoded claims)) (.next (.refresh token jtis (.checked claims id record)))
  | revoke {token jtis claims id record row} (hrow : v.rows .refreshToken id = some row) :
      Turns deps now v (.refresh token jtis (.checked claims id record))
        (.write [⟨.refreshToken, id, some { row with revoked := true }⟩] (.refresh token jtis (.revoked claims)))
  | issue {token jtis claims row pair} (h : Minted deps jtis row) :
      Turns deps now v (.refresh token jtis (.revoked claims))
        (.insert .refreshToken (fun _ => row) fun _ => .refresh token jtis (.flushed pair))
  | answer {token jtis pair} :
      Turns deps now v (.refresh token jtis (.flushed pair)) (.next (.refresh token jtis (.answered pair)))
  | commit {token jtis pair} :
      Turns deps now v (.refresh token jtis (.answered pair)) (.commit (.refresh token jtis (.done (.tokens pair))))
  | refuse {token jtis st detail} :
      Turns deps now v (.refresh token jtis st) (.rollback (.refresh token jtis (.done (unauthorized detail))))
  | crash {token jtis st exc} (h : Crash deps now v token jtis st) :
      Turns deps now v (.refresh token jtis st) (.rollback (.refresh token jtis (.done (.raised exc))))
  | overLogin {username password jtis a} : Turns deps now v (.login username password jtis (.done a))
      (.next (.login username password jtis (.done a)))
  | found {username password jtis user} : Turns deps now v (.login username password jtis .start)
      (.next (.login username password jtis (.checked user)))
  | issueLogin {username password jtis user row pair} (h : Minted deps jtis row) :
      Turns deps now v (.login username password jtis (.checked user))
        (.insert .refreshToken (fun _ => row) fun _ => .login username password jtis (.flushed pair))
  | answerLogin {username password jtis pair} : Turns deps now v (.login username password jtis (.flushed pair))
      (.next (.login username password jtis (.answered pair)))
  | commitLogin {username password jtis pair} : Turns deps now v (.login username password jtis (.answered pair))
      (.commit (.login username password jtis (.done (.tokens pair))))
  | refuseLogin {username password jtis st a} :
      Turns deps now v (.login username password jtis st) (.rollback (.login username password jtis (.done a)))

section Inversion
variable {deps : Deps} {now : DateTime} {v : View Row}

theorem mem_withToken {token : String} {id : Nat} {r : RefreshToken} (h : (id, r) ∈ withToken v token) :
    v.rows .refreshToken id = some r ∧ RefreshToken.token r = token := by
  obtain ⟨hmem, ht⟩ := List.mem_filter.mp h
  exact ⟨mem_select hmem, by simpa using ht⟩

/-- A SELECT yields each row once. -/
theorem nodup_withToken (token : String) : ((withToken v token).map Prod.fst).Nodup := by
  have hselect : (select v .refreshToken).map Prod.fst =
      (List.range (v.seq .refreshToken)).filter fun id => (v.rows .refreshToken id).isSome := by
    unfold select
    rw [List.map_filterMap, ← List.filterMap_eq_filter]
    congr 1
    funext id
    cases h : v.rows .refreshToken id <;> simp [Option.guard, h]
  refine List.Nodup.sublist ((List.filter_sublist).map Prod.fst) ?_
  rw [hselect]
  exact List.nodup_range.filter _

/-- The token is inserted, unless a row has it. -/
theorem issueTokenPair_cases {S : Type} (deps : Deps) (now : DateTime) (v : View Row) (username : String) (role : Json)
    (jtis : Jtis) (flushed : TokenResponse → S) (failed : Answer → S) : ∃ row pair, Minted deps jtis row ∧
      (issueTokenPair deps username role jtis now v flushed failed =
          .insert .refreshToken (fun _ => row) (fun _ => flushed pair) ∨
        (∃ id r, v.rows .refreshToken id = some r ∧ RefreshToken.token r = row.token) ∧
          issueTokenPair deps username role jtis now v flushed failed = .rollback (failed (.raised "IntegrityError"))) := by
  refine ⟨newToken (issueRefreshToken deps.jwt deps.settings username role jtis.signed jtis.refresh).1 username
    (jtis.stored.addSeconds (issueRefreshToken deps.jwt deps.settings username role jtis.signed jtis.refresh).2) now,
    { accessToken := (issueAccessToken deps.jwt deps.settings username role now jtis.access).1
      refreshToken := (issueRefreshToken deps.jwt deps.settings username role jtis.signed jtis.refresh).1
      expiresIn := (issueAccessToken deps.jwt deps.settings username role now jtis.access).2 },
    ⟨rfl, _, rfl, rfl, rfl⟩, ?_⟩
  by_cases hfree : (withToken v
    (issueRefreshToken deps.jwt deps.settings username role jtis.signed jtis.refresh).1).isEmpty = true
  · exact Or.inl (if_pos hfree)
  · obtain ⟨⟨id, r⟩, hmem⟩ := List.exists_mem_of_ne_nil _ (by simpa using hfree)
    exact Or.inr ⟨⟨id, r, mem_withToken hmem⟩, if_neg hfree⟩

theorem login_turns (username password : String) (jtis : Jtis) (st : Login) :
    Turns deps now v (.login username password jtis st) (act deps now (.login username password jtis st) v) := by
  cases st with
  | start =>
    simp only [act, login]
    split
    · exact .refuseLogin
    · split
      · exact .refuseLogin
      · exact .found
    · exact .refuseLogin
  | checked user =>
    obtain ⟨row, pair, hminted, hissue | ⟨-, hissue⟩⟩ :=
      issueTokenPair_cases deps now v user.username (.str user.role) jtis Login.flushed Login.done
    · simp only [act, login, hissue]
      exact .issueLogin hminted
    · simp only [act, login, hissue]
      exact .refuseLogin
  | flushed pair => exact .answerLogin
  | answered pair => exact .commitLogin
  | done a => exact .overLogin

theorem refresh_turns (token : String) (jtis : Jtis) (st : Refresh) :
    Turns deps now v (.refresh token jtis st) (act deps now (.refresh token jtis st) v) := by
  cases st with
  | start =>
    simp only [act, refresh]
    split
    · exact .refuse
    · rename_i exc hdecode
      exact .crash (.undecodable hdecode)
    · rename_i claims hdecode
      exact .decode hdecode
  | decoded claims =>
    simp only [act, refresh]
    split
    · exact .refuse
    · rename_i id record hrow
      obtain ⟨hrow, htoken⟩ := mem_withToken (v := v) (by rw [hrow]; exact List.mem_singleton_self _)
      split
      · exact .refuse
      · rename_i hlive
        simp only [Bool.or_eq_true, decide_eq_true_eq, not_or, Bool.not_eq_true] at hlive
        exact .select hrow htoken hlive.1 hlive.2
    · rename_i hnil hone
      -- Two rows or more: the list is neither empty nor a singleton.
      rcases hrows : withToken v token with _ | ⟨⟨id, r⟩, _ | ⟨⟨id', r'⟩, rest⟩⟩
      · exact absurd hrows hnil
      · exact absurd hrows (hone id r)
      · have hnodup := nodup_withToken (v := v) token
        rw [hrows] at hnodup
        obtain ⟨hr, ht⟩ := mem_withToken (v := v) (by rw [hrows]; exact List.mem_cons_self)
        obtain ⟨hr', ht'⟩ := mem_withToken (v := v)
          (by rw [hrows]; exact List.mem_cons_of_mem _ List.mem_cons_self)
        have hne : id ≠ id' := by
          rintro rfl
          simp at hnodup
        exact .crash (.several hne hr ht hr' ht')
  | checked claims id record =>
    simp only [act, refresh, update]
    split
    · rename_i row hrow
      exact .revoke hrow
    · rename_i hrow
      exact .crash (.stale hrow)
  | revoked claims =>
    simp only [act, refresh]
    split
    · rename_i username role hsub hrole
      obtain ⟨row, pair, hminted, hissue | ⟨⟨id, r, hr, ht⟩, hissue⟩⟩ :=
        issueTokenPair_cases deps now v username role jtis Refresh.flushed Refresh.done
      · rw [hissue]
        exact .issue hminted
      · rw [hissue]
        exact .crash (.taken hminted hr ht)
    · rename_i sub role hno hsub _
      refine .crash (.key ?_)
      rintro ⟨username, role, hsub', hrole⟩
      rw [hsub] at hsub'
      exact hno username (Option.some.inj hsub')
    · rename_i hno _
      refine .crash (.key ?_)
      rintro ⟨username, role, hsub, hrole⟩
      exact hno username role hsub hrole
  | flushed pair => exact .answer
  | answered pair => exact .commit
  | done a => exact .ended

theorem act_turns (s : Session) : Turns deps now v s (act deps now s v) := by
  cases s with
  | login username password jtis st => exact login_turns username password jtis st
  | refresh token jtis st => exact refresh_turns token jtis st

end Inversion

end IrisService.Auth

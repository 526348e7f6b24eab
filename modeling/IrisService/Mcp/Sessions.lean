import IrisService.Library.Runs
import IrisService.Mcp.Principals

/-! Tool calls in the sessions of `mount_mcp_server`: which identity a tool body reads from `_current_user`, when
requests of several users, their sessions and their calls interleave. Of the SDK it is assumed that `verify_token`
runs in the context of its HTTP request, that a new session's task runs in a copy of the context of the request that
opens it, and each tool call in a copy of the context of that task. -/

namespace IrisService.Mcp.Sessions
open Runs Auth

/-- An HTTP request at `/mcp`; `context` is `_current_user` in its context, `verified` what `verify_token` found. -/
structure Request where
  token : String
  session : Option Nat
  context : Option McpUser
  verified : Option McpUser
  deriving DecidableEq

/-- A session's task. -/
structure Session where
  openedBy : Nat
  context : Option McpUser
  deriving DecidableEq

/-- A tool call; `observed` is what `get_current_user` has given to its body. -/
structure Call where
  request : Nat
  session : Nat
  context : Option McpUser
  observed : Option (Except McpError McpUser)

/-- The requests by number, the sessions, and the calls of tools. -/
structure World where
  requests : Nat → Option Request
  sessions : List Session
  calls : List Call

/-- What can happen at the server. -/
inductive Event where
  /-- Request `r` arrives with a bearer token, and with the id of a session or to open one. -/
  | receive (r : Nat) (token : String) (session : Option Nat)
  | verify (r : Nat) (now : DateTime)
  | openSession (r : Nat)
  /-- The tool call that request `r` carries is handed to the task of its session. -/
  | call (r : Nat)
  /-- The body of call `k` reads the identity. -/
  | body (k : Nat)

/-- The user whom the verifier has found for a request. -/
def World.verified (w : World) (r : Nat) : Option McpUser := (w.requests r).bind Request.verified

/-- A server that nobody has called. -/
def start : World := ⟨fun _ => none, [], []⟩

section Step
variable (jwt : Jwt) (apiKey : String)

/-- An event takes effect where the request has come to it. -/
def step (w : World) : Event → World
  | .receive r token session => match w.requests r with
    | some _ => w
    | none => { w with requests := Function.update w.requests r (some ⟨token, session, none, none⟩) }
  | .verify r now => match w.requests r with
    | none => w
    | some request => match request.verified, verifyToken jwt apiKey now request.token with
      | none, .accepted user _ =>
        { w with
          requests := Function.update w.requests r (some { request with context := some user, verified := some user }) }
      | _, _ => w
  | .openSession r => match w.requests r with
    | none => w
    | some request => match request.verified, request.session with
      | some _, none => { w with sessions := w.sessions ++ [⟨r, request.context⟩] }
      | _, _ => w
  | .call r => match w.requests r with
    | none => w
    | some request => match request.verified, request.session with
      | some _, some s => match w.sessions[s]? with
        | none => w
        | some session => { w with calls := w.calls ++ [⟨r, s, session.context, none⟩] }
      | _, _ => w
  | .body k => match w.calls[k]? with
    | none => w
    | some call => { w with calls := w.calls.set k { call with observed := some (getCurrentUser call.context) } }

end Step

/-- Each body has read the identity that was verified for the request that carried its call. -/
def World.Attributed (w : World) : Prop :=
  ∀ call ∈ w.calls, ∀ identity, call.observed = some identity →
    ∃ user, w.verified call.request = some user ∧ identity = .ok user

/-- A call whose body runs comes from the identity that opened its session. -/
def OwnSession (w : World) : Event → Prop
  | .body k => ∀ call, w.calls[k]? = some call → ∀ session, w.sessions[call.session]? = some session →
    w.verified call.request = w.verified session.openedBy
  | _ => True

/-! ### What a step does -/

/-- The steps that change something, one constructor for each, and staying as it is. -/
inductive Goes (jwt : Jwt) (apiKey : String) (w : World) : Event → World → Prop where
  | stay (e : Event) : Goes jwt apiKey w e w
  | receive (r : Nat) (token : String) (session : Option Nat) (hnew : w.requests r = none) :
      Goes jwt apiKey w (.receive r token session)
        { w with requests := Function.update w.requests r (some ⟨token, session, none, none⟩) }
  | verify (r : Nat) (now : DateTime) (request : Request) (user : McpUser) (access : AccessToken)
      (hrequest : w.requests r = some request) (hunverified : request.verified = none)
      (haccepted : verifyToken jwt apiKey now request.token = .accepted user access) :
      Goes jwt apiKey w (.verify r now)
        { w with
          requests := Function.update w.requests r (some { request with context := some user, verified := some user }) }
  | openSession (r : Nat) (request : Request) (user : McpUser) (hrequest : w.requests r = some request)
      (hverified : request.verified = some user) (hnone : request.session = none) :
      Goes jwt apiKey w (.openSession r) { w with sessions := w.sessions ++ [⟨r, request.context⟩] }
  | call (r s : Nat) (request : Request) (user : McpUser) (session : Session) (hrequest : w.requests r = some request)
      (hverified : request.verified = some user) (hsome : request.session = some s)
      (hsession : w.sessions[s]? = some session) :
      Goes jwt apiKey w (.call r) { w with calls := w.calls ++ [⟨r, s, session.context, none⟩] }
  | body (k : Nat) (call : Call) (hcall : w.calls[k]? = some call) :
      Goes jwt apiKey w (.body k)
        { w with calls := w.calls.set k { call with observed := some (getCurrentUser call.context) } }

variable {jwt : Jwt} {apiKey : String} {w w' : World} {e : Event}

theorem goes_step (jwt : Jwt) (apiKey : String) (w : World) (e : Event) : Goes jwt apiKey w e (step jwt apiKey w e) := by
  cases e with
  | receive r token session =>
    simp only [step]
    split
    · exact .stay _
    · rename_i hnew
      exact .receive r token session hnew
  | verify r now =>
    simp only [step]
    split
    · exact .stay _
    · rename_i request hrequest
      split
      · rename_i user access hunverified haccepted
        exact .verify r now request user access hrequest hunverified haccepted
      · exact .stay _
  | openSession r =>
    simp only [step]
    split
    · exact .stay _
    · rename_i request hrequest
      split
      · rename_i user hverified hnone
        exact .openSession r request user hrequest hverified hnone
      · exact .stay _
  | call r =>
    simp only [step]
    split
    · exact .stay _
    · rename_i request hrequest
      split
      · rename_i user s hverified hsome
        split
        · exact .stay _
        · rename_i session hsession
          exact .call r s request user session hrequest hverified hsome hsession
      · exact .stay _
  | body k =>
    simp only [step]
    split
    · exact .stay _
    · rename_i call hcall
      exact .body k call hcall

/-- What has been verified for a request stays. -/
theorem Goes.verified (h : Goes jwt apiKey w e w') {r : Nat} {user : McpUser} (hr : w.verified r = some user) :
    w'.verified r = some user := by
  obtain ⟨request, hrequest, hverified⟩ := Option.bind_eq_some_iff.mp hr
  cases h with
  | stay | openSession | call | body => exact hr
  | receive r' token session hnew =>
    have hne : r ≠ r' := by
      rintro rfl
      cases hnew.symm.trans hrequest
    simpa [World.verified, hne] using hr
  | verify r' now request' user' access hrequest' hunverified =>
    have hne : r ≠ r' := by
      rintro rfl
      cases hrequest'.symm.trans hrequest
      cases hunverified.symm.trans hverified
    simpa [World.verified, hne] using hr

theorem Goes.verified_ne_none (h : Goes jwt apiKey w e w') {r : Nat} (hr : w.verified r ≠ none) : w'.verified r ≠ none := by
  obtain ⟨user, huser⟩ := Option.ne_none_iff_exists'.mp hr
  rw [h.verified huser]
  exact Option.some_ne_none user

/-- A session keeps its number and its context. -/
theorem Goes.sessions (h : Goes jwt apiKey w e w') {s : Nat} {session : Session} (hs : w.sessions[s]? = some session) :
    w'.sessions[s]? = some session := by
  cases h with
  | stay | receive | verify | call | body => exact hs
  | openSession r request user hrequest hverified =>
    exact (List.getElem?_append_left (List.getElem?_eq_some_iff.mp hs).1).trans hs

/-! ### Contexts -/

/-- Each context holds the identity of the request that it was first the context of. -/
structure Traced (w : World) : Prop where
  request : ∀ r request, w.requests r = some request → request.context = request.verified
  session : ∀ session ∈ w.sessions, ∃ user, w.verified session.openedBy = some user ∧ session.context = some user
  call : ∀ call ∈ w.calls, w.verified call.request ≠ none ∧
    ∃ session, w.sessions[call.session]? = some session ∧ call.context = session.context
  observed : ∀ call ∈ w.calls, ∀ identity, call.observed = some identity → identity = getCurrentUser call.context

theorem traced_start : Traced start := ⟨nofun, nofun, nofun, nofun⟩

theorem traced_request (h : Traced w) (hgoes : Goes jwt apiKey w e w') (r : Nat) (request : Request)
    (hrequest : w'.requests r = some request) : request.context = request.verified := by
  cases hgoes with
  | stay | openSession | call | body => exact h.request r request hrequest
  | receive r' token session hnew =>
    by_cases hr : r = r'
    · subst hr
      simp only [Function.update_self, Option.some.injEq] at hrequest
      rw [← hrequest]
    · simp only [Function.update_of_ne hr] at hrequest
      exact h.request r request hrequest
  | verify r' now request' user access hrequest' hunverified =>
    by_cases hr : r = r'
    · subst hr
      simp only [Function.update_self, Option.some.injEq] at hrequest
      rw [← hrequest]
    · simp only [Function.update_of_ne hr] at hrequest
      exact h.request r request hrequest

/-- The sessions that there are keep their contexts, and a new one copies the context of its request. -/
theorem traced_session (h : Traced w) (hgoes : Goes jwt apiKey w e w') (session : Session)
    (hsession : session ∈ w'.sessions) :
    ∃ user, w'.verified session.openedBy = some user ∧ session.context = some user := by
  have hold : session ∈ w.sessions → ∃ user, w'.verified session.openedBy = some user ∧ session.context = some user := by
    intro hmem
    obtain ⟨user, huser, hcontext⟩ := h.session session hmem
    exact ⟨user, hgoes.verified huser, hcontext⟩
  cases hgoes with
  | stay | receive | verify | call | body => exact hold hsession
  | openSession r request user hrequest hverified =>
    rcases List.mem_append.mp hsession with hmem | hmem
    · exact hold hmem
    · rw [List.mem_singleton.mp hmem]
      refine ⟨user, ?_, ?_⟩
      · rw [World.verified, hrequest]
        exact hverified
      · rw [h.request r request hrequest]
        exact hverified

/-- A new call copies the context of its session. -/
theorem traced_call (h : Traced w) (hgoes : Goes jwt apiKey w e w') (call : Call) (hcall : call ∈ w'.calls) :
    w'.verified call.request ≠ none ∧
      ∃ session, w'.sessions[call.session]? = some session ∧ call.context = session.context := by
  have hold : ∀ old ∈ w.calls, w'.verified old.request ≠ none ∧
      ∃ session, w'.sessions[old.session]? = some session ∧ old.context = session.context := by
    intro old hmem
    obtain ⟨hverified, session, hsession, hcontext⟩ := h.call old hmem
    exact ⟨hgoes.verified_ne_none hverified, session, hgoes.sessions hsession, hcontext⟩
  cases hgoes with
  | stay | receive | verify | openSession => exact hold call hcall
  | call r s request user session hrequest hverified hsome hsession =>
    rcases List.mem_append.mp hcall with hmem | hmem
    · exact hold call hmem
    · rw [List.mem_singleton.mp hmem]
      refine ⟨?_, session, hsession, rfl⟩
      simp [World.verified, hrequest, hverified]
  | body k ran hran =>
    rcases List.mem_or_eq_of_mem_set hcall with hmem | rfl
    · exact hold call hmem
    · exact hold ran (List.mem_of_getElem? hran)

theorem traced_observed (h : Traced w) (hgoes : Goes jwt apiKey w e w') (call : Call) (hcall : call ∈ w'.calls)
    (identity : Except McpError McpUser) (hidentity : call.observed = some identity) :
    identity = getCurrentUser call.context := by
  cases hgoes with
  | stay | receive | verify | openSession => exact h.observed call hcall identity hidentity
  | call r s request user session hrequest hverified hsome hsession =>
    rcases List.mem_append.mp hcall with hmem | hmem
    · exact h.observed call hmem identity hidentity
    · rw [List.mem_singleton.mp hmem] at hidentity
      cases hidentity
  | body k ran hran =>
    rcases List.mem_or_eq_of_mem_set hcall with hmem | rfl
    · exact h.observed call hmem identity hidentity
    · exact (Option.some.inj hidentity).symm

theorem traced_step (h : Traced w) (e : Event) : Traced (step jwt apiKey w e) where
  request := traced_request h (goes_step jwt apiKey w e)
  session := traced_session h (goes_step jwt apiKey w e)
  call := traced_call h (goes_step jwt apiKey w e)
  observed := traced_observed h (goes_step jwt apiKey w e)

/-! ### Identities -/

theorem getCurrentUser_ok {context : Option McpUser} {user : McpUser} :
    getCurrentUser context = .ok user ↔ context = some user := by
  cases context <;> simp [getCurrentUser]

/-- A body reads the identity of its own request exactly when that is the one that opened the session. -/
theorem reads_own_iff (h : Traced w) {call : Call} (hcall : call ∈ w.calls) :
    (∃ user, w.verified call.request = some user ∧ getCurrentUser call.context = .ok user) ↔
      ∀ session, w.sessions[call.session]? = some session → w.verified call.request = w.verified session.openedBy := by
  obtain ⟨hverified, session, hsession, hcontext⟩ := h.call call hcall
  obtain ⟨opener, hopener, hsame⟩ := h.session session (List.mem_of_getElem? hsession)
  constructor
  · rintro ⟨user, huser, hread⟩ session' hsession'
    cases hsession.symm.trans hsession'
    rw [huser, hopener, ← hsame, ← hcontext]
    exact (getCurrentUser_ok.mp hread).symm
  · intro hown
    refine ⟨opener, (hown session hsession).trans hopener, ?_⟩
    rw [getCurrentUser_ok, hcontext, hsame]

theorem attributed_step (h : Traced w) (hw : w.Attributed) (e : Event) (hown : OwnSession w e) :
    (step jwt apiKey w e).Attributed := by
  intro call hcall identity hidentity
  have hold : ∀ old ∈ w.calls, ∀ identity, old.observed = some identity →
      ∃ user, (step jwt apiKey w e).verified old.request = some user ∧ identity = .ok user := by
    intro old hmem identity hidentity
    obtain ⟨user, huser, hread⟩ := hw old hmem identity hidentity
    exact ⟨user, (goes_step jwt apiKey w e).verified huser, hread⟩
  generalize hstep : step jwt apiKey w e = w' at hcall hold ⊢
  have hgoes : Goes jwt apiKey w e w' := hstep ▸ goes_step jwt apiKey w e
  cases hgoes with
  | stay | receive | verify | openSession => exact hold call hcall identity hidentity
  | call r s request user session hrequest hverified hsome hsession =>
    rcases List.mem_append.mp hcall with hmem | hmem
    · exact hold call hmem identity hidentity
    · rw [List.mem_singleton.mp hmem] at hidentity
      cases hidentity
  | body k ran hran =>
    rcases List.mem_or_eq_of_mem_set hcall with hmem | rfl
    · exact hold call hmem identity hidentity
    · obtain ⟨user, huser, hread⟩ := (reads_own_iff h (List.mem_of_getElem? hran)).mpr (hown ran hran)
      exact ⟨user, huser, (Option.some.inj hidentity).symm.trans hread⟩

theorem ownSession_of_attributed (h : Traced w) (e : Event) (hw : (step jwt apiKey w e).Attributed) : OwnSession w e := by
  cases e with
  | receive | verify | openSession | call => trivial
  | body k =>
    intro call hcall
    have hread : call ∈ w.calls := List.mem_of_getElem? hcall
    refine (reads_own_iff h hread).mp ?_
    have hlength : k < w.calls.length := (List.getElem?_eq_some_iff.mp hcall).1
    simp only [World.Attributed, step, hcall] at hw
    obtain ⟨user, huser, hsame⟩ := hw { call with observed := some (getCurrentUser call.context) }
      (List.mem_set hlength _) _ rfl
    exact ⟨user, huser, hsame⟩

/-- Every body reads the identity verified for its own request exactly in the runs where each call whose body runs
    comes from the identity that opened its session. -/
theorem attributed_iff (jwt : Jwt) (apiKey : String) (es : List Event) :
    (∀ w ∈ states (step jwt apiKey) start es, w.Attributed) ↔ Meets (step jwt apiKey) OwnSession start es := by
  constructor
  · intro h
    exact meets_of_states (P := Traced) h traced_start (fun _ e hw => traced_step hw e)
      fun _ e hw => ownSession_of_attributed hw e
  · intro h w hw
    have hboth : ∀ w ∈ states (step jwt apiKey) start es, Traced w ∧ w.Attributed := by
      refine h.states ⟨traced_start, nofun⟩ fun w e hw hown => ?_
      exact ⟨traced_step hw.1 e, attributed_step hw.1 hw.2 e hown⟩
    exact (hboth w hw).2

/-! ### Another user's session -/

/-- 1970-01-01, in UTC -/
def epoch : DateTime := ⟨62135596800 * 1000000, some 0⟩

/-- The claims of an access token of a user without the role of an admin. -/
def bobClaims : IssuedClaims := ⟨"bob", .str "ROLE_USER", .access, "jti", 0, 900⟩

def bobToken : String := roleless.encode bobClaims

def demoKey : String := "demo-api-key-2026"

theorem verifyToken_bob :
    ∃ access, verifyToken roleless demoKey epoch bobToken = .accepted ⟨"bob", "ROLE_USER"⟩ access := by
  have hkey : ¬ (demoKey ≠ "" ∧ bobToken = demoKey) := fun h =>
    readable_ne demoKey rfl (by decide) (by decide) bobClaims h.2
  have hclaims : decodeToken roleless.toPyJwt epoch bobToken .access = .ok bobClaims.dict := by
    rw [decodeToken, bobToken, roleless.decode_encode]
    rfl
  exact (verifyToken_names hkey hclaims ⟨rfl, rfl⟩).mpr (by decide)

/-- The API key opens a session, and a user with a token of their own sends a call on it. -/
def borrowed : List Event :=
  [.receive 0 demoKey none, .verify 0 epoch, .openSession 0, .receive 1 bobToken (some 0), .verify 1 epoch, .call 1,
    .body 0]

theorem borrowed_run : ∃ w, run (step roleless demoKey) start borrowed = w ∧ w.verified 1 = some ⟨"bob", "ROLE_USER"⟩ ∧
    w.calls = [⟨1, 0, some ⟨apiKeyUsername, roleAdmin⟩, some (.ok ⟨apiKeyUsername, roleAdmin⟩)⟩] := by
  obtain ⟨access, hbob⟩ := verifyToken_bob
  obtain ⟨access', hkey⟩ := verifyToken_apiKey roleless (show demoKey ≠ "" by decide) epoch
  refine ⟨_, rfl, ?_, ?_⟩
  · simp [borrowed, run, step, start, World.verified, hbob, hkey]
  · simp [borrowed, run, step, start, hbob, hkey, getCurrentUser]

theorem not_attributed_borrowed : ¬ ∀ (jwt : Jwt) (apiKey : String) (es : List Event),
    ∀ w ∈ states (step jwt apiKey) start es, w.Attributed := by
  intro h
  obtain ⟨w, hrun, hverified, hcalls⟩ := borrowed_run
  have hw : w.Attributed := h roleless demoKey borrowed w (hrun ▸ run_mem_states start borrowed)
  obtain ⟨user, huser, hread⟩ := hw _ (hcalls ▸ List.mem_singleton_self _) _ rfl
  cases hverified.symm.trans huser
  exact absurd hread (by decide)

end IrisService.Mcp.Sessions

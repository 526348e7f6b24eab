import IrisService.Customers.EnrichmentRouter

/-! The endpoints that call an HTTP service outside: how often they call it, when, and what they answer when it fails. -/

namespace IrisService.Customers.Enrichment
open Effects Program Integration

/-! ### What an upstream is asked -/

/-- What has happened so far: how the customer was looked up, what the attempts have come to, and the waits. -/
structure Seen (α : Type) where
  customer : Option (Except Exc (Option Customer)) := none
  outcomes : List (Except Exc α) := []
  waits : List Nat := []

section Calls
variable {α : Type} (id : Int) (upstream : Customer → Upstream α)

/-- The customer has been found, and no attempt has come to anything else than an exception that may pass. -/
structure Due (customer : Customer) (s : Seen α) : Prop where
  found : s.customer = some (.ok (some customer))
  left : s.outcomes.length < (upstream customer).policy.attempts
  again : ∀ o ∈ s.outcomes, (upstream customer).policy.Again o

/-- The customer is looked up once, and an attempt is made of one that has been found, after a wait for each that has
    failed. -/
def May (s : Seen α) {β : Type} : Effect β → Prop
  | .getCustomer id' => id' = id ∧ s.customer = none
  | .send request => ∃ customer, Due upstream customer s ∧ request = (upstream customer).request ∧
      s.waits = (upstream customer).policy.waits s.outcomes.length
  | .sleep milliseconds => ∃ customer, Due upstream customer s ∧
      s.waits ++ [milliseconds] = (upstream customer).policy.waits s.outcomes.length
  | .requestReply _ _ => False

/-- What the call has seen after one more effect. -/
def Seen.next (s : Seen α) {β : Type} : Effect β → Except Exc β → Seen α
  | .getCustomer _, found => { s with customer := some found }
  | .send _, response =>
    match s.customer with
    | some (.ok (some customer)) => { s with outcomes := s.outcomes ++ [response.bind (upstream customer).read] }
    | _ => s
  | .sleep milliseconds, _ => { s with waits := s.waits ++ [milliseconds] }
  | .requestReply _ _, _ => s

/-- The protocol of the calls to an upstream. -/
def calls : Protocol Effect Exc (Seen α) where
  may s _ e := May id upstream s e
  next s _ e r := s.next upstream e r

end Calls

/-! ### What an upstream comes to -/

section Answers
variable {α : Type} {id : Int} {upstream : Customer → Upstream α}

/-- What a service answers after its attempts. -/
def respond (upstream : Upstream α) : Except Exc α → Except Exc α
  | .ok a => .ok a
  | .error exc => if exc.isException then .ok upstream.fallback else .error exc

/-- The attempts have settled, or a wait between them was interrupted. -/
inductive Comes (upstream : Upstream α) (s : Seen α) : Except Exc α → Prop
  | settled {o : Except Exc α} (hsettles : upstream.policy.Settles s.outcomes o)
      (hwaits : s.waits = upstream.policy.waits (s.outcomes.length - 1)) : Comes upstream s (respond upstream o)
  | interrupted (exc : Exc) (hagain : ∀ o ∈ s.outcomes, upstream.policy.Again o)
      (hlength : s.outcomes.length < upstream.policy.attempts)
      (hwaits : s.waits = upstream.policy.waits s.outcomes.length) : Comes upstream s (respond upstream (.error exc))

/-- What an attempt is made in: the customer has been found, and `k` attempts have failed. -/
def Before (upstream : Customer → Upstream α) (customer : Customer) (k : Nat) (s : Seen α) : Prop :=
  Due upstream customer s ∧ s.outcomes.length = k ∧ s.waits = (upstream customer).policy.waits k

/-- How the attempts end, with the customer they are about. -/
def Ends (upstream : Customer → Upstream α) (customer : Customer) (r : Except Exc α) (s : Seen α) : Prop :=
  s.customer = some (.ok (some customer)) ∧ Comes (upstream customer) s (respond (upstream customer) r)

variable {customer : Customer} {s : Seen α}

/-- An attempt that no other follows. -/
theorem Due.ends (h : Due upstream customer s)
    (hwaits : s.waits = (upstream customer).policy.waits s.outcomes.length) {o : Except Exc α}
    (hlast : (upstream customer).policy.Again o → s.outcomes.length + 1 = (upstream customer).policy.attempts) :
    Ends upstream customer o { s with outcomes := s.outcomes ++ [o] } := by
  refine ⟨h.found, .settled (.of_concat h.again h.left hlast) ?_⟩
  show s.waits = _
  rw [List.length_append, List.length_singleton, Nat.add_sub_cancel]
  exact hwaits

theorem Due.again_concat (h : Due upstream customer s) {o : Except Exc α} (ho : (upstream customer).policy.Again o)
    (hleft : s.outcomes.length + 1 < (upstream customer).policy.attempts) :
    Due upstream customer { s with outcomes := s.outcomes ++ [o] } where
  found := h.found
  left := by
    rw [List.length_append]
    exact hleft
  again o' ho' := by
    rcases List.mem_append.mp ho' with ho' | ho'
    · exact h.again o' ho'
    · rw [List.mem_singleton.mp ho']
      exact ho

/-- One attempt: it is the last one, or it is followed by a wait after which the next one is due. -/
theorem attempts_call : Attempts (upstream customer).policy .sleep (calls id upstream) (Ends upstream customer)
    (Before upstream customer) (upstream customer).call := by
  rintro k s ⟨hdue, rfl, hwaits⟩ -
  have hnext : ∀ r : Except Exc HttpResponse, (calls id upstream).next s (.send (upstream customer).request) r =
      { s with outcomes := s.outcomes ++ [r.bind (upstream customer).read] } := by
    intro r
    simp only [calls, Seen.next, hdue.found]
  have hleads : ∀ o : Except Exc α, Leads (upstream customer).policy .sleep (calls id upstream) (Ends upstream customer)
      (Before upstream customer) s.outcomes.length o { s with outcomes := s.outcomes ++ [o] } := by
    intro o
    cases o with
    | ok a => exact hdue.ends hwaits fun hagain => hagain.elim
    | error x =>
      by_cases hagain : (upstream customer).policy.passes x = true ∧
          s.outcomes.length + 1 < (upstream customer).policy.attempts
      · have hdue' := hdue.again_concat (o := .error x) hagain.1 hagain.2
        have hlength : (s.outcomes ++ [(.error x : Except Exc α)]).length = s.outcomes.length + 1 := List.length_append
        have hslept : s.waits ++ [(upstream customer).policy.wait (s.outcomes.length + 1)] =
            (upstream customer).policy.waits (s.outcomes ++ [(.error x : Except Exc α)]).length := by
          rw [hlength, RetryPolicy.waits_succ, hwaits]
        rw [Leads, if_pos hagain]
        refine ⟨⟨customer, hdue', hslept⟩, ⟨⟨hdue'.found, hdue'.left, hdue'.again⟩, hlength, ?_⟩, fun y => ?_⟩
        · rwa [hlength] at hslept
        · exact ⟨hdue'.found, .interrupted y hdue'.again hdue'.left hslept⟩
      · rw [Leads, if_neg hagain]
        refine hdue.ends hwaits fun hpasses => ?_
        have hlast : ¬s.outcomes.length + 1 < (upstream customer).policy.attempts := fun hlt => hagain ⟨hpasses, hlt⟩
        have hleft := hdue.left
        omega
  refine wp_effect_bind ⟨customer, hdue, rfl, hwaits⟩ (fun response => ?_) fun exc => ?_
  · rw [hnext]
    exact hleads ((upstream customer).read response)
  · rw [hnext]
    exact hleads (.error exc)

theorem wp_answer (hattempts : 0 < (upstream customer).policy.attempts)
    (hfound : s.customer = some (.ok (some customer))) (houtcomes : s.outcomes = []) (hwaits : s.waits = []) :
    (upstream customer).answer.wp (calls id upstream)
      (fun r s => s.customer = some (.ok (some customer)) ∧ Comes (upstream customer) s r) s := by
  have hbefore : Before upstream customer 0 s := by
    refine ⟨⟨hfound, ?_, ?_⟩, ?_, hwaits⟩
    · rwa [houtcomes]
    · rw [houtcomes]
      exact List.forall_mem_nil _
    · rw [houtcomes, List.length_nil]
  rw [Upstream.answer, wp_tryCatch]
  refine wp_mono (wp_retry attempts_call hattempts hbefore) fun r s' hends => ?_
  cases r with
  | ok a => exact hends
  | error exc =>
    by_cases hexc : exc.isException = true
    · rw [Ends, respond, if_pos hexc] at hends
      simpa only [if_pos hexc, wp_pure] using hends
    · rw [Ends, respond, if_neg hexc] at hends
      simpa only [if_neg hexc, wp_raise] using hends

/-! ### A route with an upstream -/

/-- What the route answers, by how the customer was looked up. -/
inductive Served (id : Int) (upstream : Customer → Upstream α) (s : Seen α) : Except Exc (Answer α) → Prop
  | missing (hmissing : s.customer = some (.ok none)) (houtcomes : s.outcomes = []) :
      Served id upstream s (.ok (.http ⟨404, .text ("Customer not found: id=" ++ toString id)⟩))
  | failed (exc : Exc) (hfailed : s.customer = some (.error exc)) (houtcomes : s.outcomes = []) :
      Served id upstream s (if exc.kind = .noResultFound then .ok (.http ⟨404, .text exc.text⟩) else .error exc)
  | found (customer : Customer) (hfound : s.customer = some (.ok (some customer))) {r : Except Exc α}
      (hcomes : Comes (upstream customer) s r) : Served id upstream s (r.map .ok)

theorem wp_route (hattempts : ∀ customer, 0 < (upstream customer).policy.attempts) :
    (withCustomer id fun customer => .ok <$> (upstream customer).answer).wp (calls id upstream)
      (fun r s => Served id upstream s r) {} := by
  refine wp_withCustomer ⟨rfl, rfl⟩ (.missing rfl rfl) (fun exc => .failed exc rfl rfl) fun customer => ?_
  refine wp_map.mpr (wp_mono (wp_answer (hattempts customer) rfl rfl rfl) fun r s h => ?_)
  exact .found customer h.1 h.2

/-- What the caller of a route with an upstream sees. -/
structure Degrades (id : Int) (upstream : Customer → Upstream α) (s : Seen α) (r : Except Exc (Answer α)) : Prop where
  /-- A customer who is not there is a 404, and nothing is sent. -/
  missing : s.customer = some (.ok none) →
    s.outcomes = [] ∧ r = .ok (.http ⟨404, .text ("Customer not found: id=" ++ toString id)⟩)
  /-- Nothing is sent either when the database fails the lookup: a `NoResultFound` is a 404, anything else escapes. -/
  failed : ∀ exc : Exc, s.customer = some (.error exc) →
    s.outcomes = [] ∧ r = if exc.kind = .noResultFound then .ok (.http ⟨404, .text exc.text⟩) else .error exc
  /-- The waits are the first of those between the attempts. -/
  waits : ∀ customer, s.customer = some (.ok (some customer)) →
    s.outcomes.length ≤ (upstream customer).policy.attempts ∧
      s.waits <+: (upstream customer).policy.waits ((upstream customer).policy.attempts - 1)
  /-- The answer is what the last attempt has read. -/
  reads : ∀ customer body, s.customer = some (.ok (some customer)) → s.outcomes.getLast? = some (.ok body) →
    r = .ok (.ok body)
  /-- If it has read nothing, the answer is the fallback, unless a `BaseException` escapes. -/
  falls : ∀ customer, s.customer = some (.ok (some customer)) → (∀ body, s.outcomes.getLast? ≠ some (.ok body)) →
    r = .ok (.ok (upstream customer).fallback) ∨ ∃ exc : Exc, exc.isException = false ∧ r = .error exc

theorem respond_error (upstream : Upstream α) (exc : Exc) : respond upstream (.error exc) = .ok upstream.fallback ∨
    exc.isException = false ∧ respond upstream (.error exc) = .error exc := by
  rw [respond]
  by_cases hexc : exc.isException = true
  · exact Or.inl (if_pos hexc)
  · exact Or.inr ⟨by simpa using hexc, if_neg hexc⟩

theorem Comes.reads {u : Upstream α} {r : Except Exc α} (h : Comes u s r) {body : α}
    (hbody : s.outcomes.getLast? = some (.ok body)) : r = .ok body := by
  cases h with
  | settled hsettles hwaits =>
    rw [hsettles.last] at hbody
    cases hbody
    rfl
  | interrupted exc hagain hlength hwaits => exact (hagain _ (List.mem_of_getLast? hbody)).elim

theorem Comes.falls {u : Upstream α} {r : Except Exc α} (h : Comes u s r)
    (hnone : ∀ body, s.outcomes.getLast? ≠ some (.ok body)) :
    r = .ok u.fallback ∨ ∃ exc : Exc, exc.isException = false ∧ r = .error exc := by
  obtain ⟨exc, rfl⟩ : ∃ exc, r = respond u (.error exc) := by
    cases h with
    | @settled o hsettles hwaits =>
      cases o with
      | ok body => exact absurd hsettles.last (hnone body)
      | error exc => exact ⟨exc, rfl⟩
    | interrupted exc hagain hlength hwaits => exact ⟨exc, rfl⟩
  rcases respond_error u exc with hfallback | ⟨hexc, hescapes⟩
  · exact Or.inl hfallback
  · exact Or.inr ⟨exc, hexc, hescapes⟩

theorem Comes.waits {u : Upstream α} {r : Except Exc α} (h : Comes u s r) :
    s.outcomes.length ≤ u.policy.attempts ∧ s.waits <+: u.policy.waits (u.policy.attempts - 1) := by
  cases h with
  | settled hsettles hwaits =>
    have hatMost := hsettles.atMost
    rw [hwaits]
    exact ⟨hatMost, RetryPolicy.waits_prefix (by omega)⟩
  | interrupted exc hagain hlength hwaits =>
    rw [hwaits]
    exact ⟨hlength.le, RetryPolicy.waits_prefix (by omega)⟩

theorem Served.degrades {r : Except Exc (Answer α)} (h : Served id upstream s r) : Degrades id upstream s r := by
  cases h with
  | missing hmissing houtcomes =>
    have hnone : ∀ customer, s.customer ≠ some (.ok (some customer)) := fun customer => by simp [hmissing]
    have hanswered : ∀ exc, s.customer ≠ some (.error exc) := fun exc => by simp [hmissing]
    exact ⟨fun _ => ⟨houtcomes, rfl⟩, fun exc hc => absurd hc (hanswered exc), fun c hc => absurd hc (hnone c),
      fun c _ hc => absurd hc (hnone c), fun c hc => absurd hc (hnone c)⟩
  | failed exc hfailed houtcomes =>
    have hnone : ∀ found, s.customer ≠ some (.ok found) := fun found => by simp [hfailed]
    refine ⟨fun hc => absurd hc (hnone none), fun exc' hc => ⟨houtcomes, ?_⟩, fun c hc => absurd hc (hnone c),
      fun c _ hc => absurd hc (hnone c), fun c hc => absurd hc (hnone c)⟩
    cases hfailed.symm.trans hc
    rfl
  | @found customer hfound r hcomes =>
    have hsame : ∀ customer', s.customer = some (.ok (some customer')) → customer' = customer := by
      intro customer' hcustomer
      rw [hfound] at hcustomer
      cases hcustomer
      rfl
    refine ⟨fun hmissing => by simp [hfound] at hmissing, fun exc hfailed => by simp [hfound] at hfailed, ?_, ?_, ?_⟩
    · intro customer' hcustomer
      rw [hsame customer' hcustomer]
      exact hcomes.waits
    · intro customer' body hcustomer hbody
      rw [hcomes.reads hbody]
      rfl
    · intro customer' hcustomer hnone
      rw [hsame customer' hcustomer]
      rcases hcomes.falls hnone with rfl | ⟨exc, hexc, rfl⟩
      · exact Or.inl rfl
      · exact Or.inr ⟨exc, hexc, rfl⟩

/-- A route keeps to the protocol of its upstream, and its caller sees what that came to. -/
theorem route_degrades (hattempts : ∀ customer, 0 < (upstream customer).policy.attempts) (answers : Answers Effect Exc) :
    let route := withCustomer id fun customer => .ok <$> (upstream customer).answer
    (calls id upstream).Accepts {} (route.log answers 0) ∧
      Degrades id upstream ((calls id upstream).after {} (route.log answers 0)) (route.result answers 0) := by
  obtain ⟨hkeeps, hserved⟩ := wp_sound (wp_route hattempts) answers 0
  exact ⟨hkeeps, hserved.degrades⟩

/-- What a service answers is its fallback, or what it has read of a response. -/
theorem wp_answer_read (u : Upstream α) (hattempts : 0 < u.policy.attempts) :
    u.answer.wp Protocol.any (fun r _ => ∀ a, r = .ok a → a = u.fallback ∨ ∃ response, u.read response = .ok a) () := by
  have hcall : Attempts u.policy .sleep Protocol.any
      (fun r (_ : Unit) => ∀ a, r = .ok a → ∃ response, u.read response = .ok a) (fun _ _ => True) u.call := by
    rintro k ⟨⟩ - -
    have herror : ∀ exc : Exc, Leads u.policy Effect.sleep Protocol.any
        (fun r (_ : Unit) => ∀ a, r = .ok a → ∃ response, u.read response = .ok a) (fun _ _ => True) k (.error exc) () := by
      intro exc
      rw [Leads]
      split
      · exact ⟨trivial, trivial, fun y a ha => by cases ha⟩
      · exact fun a ha => by cases ha
    refine wp_effect_bind trivial (fun response => ?_) herror
    rw [wp_ofExcept]
    cases hread : u.read response with
    | ok a =>
      intro a' ha
      cases ha
      exact ⟨response, hread⟩
    | error exc => exact herror exc
  rw [Upstream.answer, wp_tryCatch]
  refine wp_mono (wp_retry hcall hattempts trivial) fun r q hr => ?_
  cases r with
  | ok a => exact fun a' ha => Or.inr (hr a' ha)
  | error exc =>
    by_cases hexc : exc.isException = true
    · simp only [if_pos hexc, wp_pure]
      exact fun a ha => Or.inl (Except.ok.inj ha).symm
    · simp only [if_neg hexc, wp_raise]
      exact fun a ha => by cases ha

end Answers

/-! ### The endpoints -/

/-- GET /customers/ID/todos, whatever the database, the service outside and the timers do. -/
theorem todos_degrade (deps : Deps) (todos : TodoService) (id : Int) (answers : Answers Effect Exc) :
    let asked := calls id fun _ => todos.upstream deps id
    let log := (getCustomerTodos deps todos id).log answers 0
    asked.Accepts {} log ∧ Degrades id (fun _ => todos.upstream deps id) (asked.after {} log)
      ((getCustomerTodos deps todos id).result answers 0) :=
  route_degrades (fun _ => Nat.succ_pos 2) answers

example (deps : Deps) (todos : TodoService) : (todos.upstream deps 7).policy.waits 2 = [250, 500] := rfl

theorem bind_eq_ok {ε β γ : Type} {x : Except ε β} {f : β → Except ε γ} {c : γ} (h : x >>= f = .ok c) :
    ∃ b, x = .ok b ∧ f b = .ok c := by
  cases x with
  | error e => cases h
  | ok b => exact ⟨b, rfl, h⟩

theorem read_ne_empty {deps : Deps} {response : HttpResponse} {text : String}
    (h : BioService.read deps response = .ok text) : text ≠ "" := by
  obtain ⟨-, -, h⟩ := bind_eq_ok h
  obtain ⟨value, -, h⟩ := bind_eq_ok h
  obtain ⟨body, -, h⟩ := bind_eq_ok h
  dsimp only at h
  split at h
  · cases h
  · rename_i hne
    cases h
    exact hne

/-- GET /customers/ID/bio likewise; and a bio is never empty. -/
theorem bio_degrades (deps : Deps) (bio : BioService) (id : Int) (answers : Answers Effect Exc) :
    let upstream := fun customer : Customer => bio.upstream deps customer.name customer.email
    let log := (getCustomerBio deps bio id).log answers 0
    (calls id upstream).Accepts {} log ∧
      Degrades id upstream ((calls id upstream).after {} log) ((getCustomerBio deps bio id).result answers 0) ∧
        ∀ text, (getCustomerBio deps bio id).result answers 0 = .ok (.ok text) → text ≠ "" := by
  have hattempts : ∀ customer : Customer, 0 < (bio.upstream deps customer.name customer.email).policy.attempts :=
    fun _ => Nat.succ_pos 1
  obtain ⟨hkeeps, hdegrades⟩ := route_degrades hattempts answers
  refine ⟨hkeeps, hdegrades, ?_⟩
  have htext : (getCustomerBio deps bio id).wp Protocol.any (fun r _ => ∀ text, r = .ok (.ok text) → text ≠ "") () := by
    refine wp_withCustomer trivial (fun text h => by cases h) (fun exc text h => ?_) fun customer => ?_
    · split at h <;> cases h
    · refine wp_map.mpr (wp_mono (wp_answer_read _ (hattempts customer)) fun r _ hr text h => ?_)
      cases r with
      | error exc => cases h
      | ok text' =>
        cases h
        rcases hr text rfl with rfl | ⟨response, hread⟩
        · show customer.name ++ " is a customer at our service. Bio currently unavailable." ≠ ""
          simp
        · exact read_ne_empty hread
  exact (wp_sound htext answers 0).2

end IrisService.Customers.Enrichment

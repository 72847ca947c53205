import ServiceDoc.Http.Exchange
/-!
# Chains of redirects

An exchange is a chain (`chain_exchange`): a request, and as long as the replies redirect and the
client follows, one more request that is made of the one before. What is known of an exchange as a
whole follows from that: how many requests it has, what they have in common, and which replies the
network gave to them.
-/

namespace ServiceDoc.Http

/-- The exchange of a request with a network, where `left` redirects may be followed and `count`
requests were sent before. -/
inductive Chain (network : Network) (follows : Bool) : Nat → Nat → Request → Exchange → Prop where
  /-- The request is the last one; if the exchange has a reply, it is the one to this request. -/
  | ended (left count : Nat) (request : Request) (e : Exchange) (hsent : e.sent = [request])
    (hreply : ∀ x, e.outcome = .ok x → network.respond count = .reply x.2) :
    Chain network follows left count request e
  | redirected (left count : Nat) (request : Request) (log : List LogRecord) (e : Exchange)
    (r : Reply) (target : Uri) (hrespond : network.respond count = .reply r)
    (hredirect : r.redirect?.isSome) (hfollows : follows = true)
    (hrest : Chain network follows left (count + 1) (request.redirected r.status target) e) :
    Chain network follows (left + 1) count request (e.after request log)

/-! ## Answers -/

section Answer

variable {follows : Bool} {request : Request} {response : Response}

theorem answer_eq_final_ok {x : Uri × Reply}
    (h : answer follows request response = .final (.ok x)) :
    response = .reply x.2 ∧ request.address.scheme.isEmpty = false := by
  cases response with
  | failure kind message => cases h
  | reply r =>
      rw [answer] at h
      split at h
      · cases h
      · next hscheme =>
        rw [Bool.not_eq_true] at hscheme
        split at h
        · cases h
          exact ⟨rfl, hscheme⟩
        · split at h
          · cases h
          · split at h
            · cases h
            · cases h
              exact ⟨rfl, hscheme⟩

theorem answer_eq_redirect {r : Reply} {target : Uri}
    (h : answer follows request response = .redirect r target) :
    response = .reply r ∧ request.address.scheme.isEmpty = false ∧ r.redirect?.isSome ∧
      follows = true := by
  cases response with
  | failure kind message => cases h
  | reply r' =>
      rw [answer] at h
      split at h
      · cases h
      · next hscheme =>
        rw [Bool.not_eq_true] at hscheme
        split at h
        · cases h
        · next location hlocation =>
          split at h
          · cases h
          · split at h
            · next hfollows =>
              cases h
              exact ⟨rfl, hscheme, by rw [hlocation, Option.isSome_some], hfollows⟩
            · cases h

end Answer

/-! ## Exchanges -/

section Exchange

variable {network : Network} {follows : Bool} {left count : Nat} {request : Request}

theorem exchange_of_final {outcome : Except ExchangeError (Uri × Reply)}
    (h : answer follows request (network.respond count) = .final outcome) :
    exchange network follows left count request =
      ⟨[request], responseLog request (network.respond count), outcome⟩ := by
  rw [exchange.eq_def]
  simp only [h]

theorem chain_of_final {outcome : Except ExchangeError (Uri × Reply)}
    (h : answer follows request (network.respond count) = .final outcome) :
    Chain network follows left count request (exchange network follows left count request) := by
  rw [exchange_of_final h]
  refine .ended _ _ _ _ rfl fun x hx => ?_
  obtain rfl : outcome = .ok x := hx
  exact (answer_eq_final_ok h).1

variable (network follows left count request)

theorem chain_exchange :
    Chain network follows left count request (exchange network follows left count request) := by
  induction left generalizing count request with
  | zero =>
      cases hanswer : answer follows request (network.respond count) with
      | final outcome => exact chain_of_final hanswer
      | redirect r target =>
          rw [exchange]
          simp only [hanswer]
          exact .ended _ _ _ _ rfl fun x hx => by cases hx
  | succ left ih =>
      cases hanswer : answer follows request (network.respond count) with
      | final outcome => exact chain_of_final hanswer
      | redirect r target =>
          obtain ⟨hrespond, -, hredirect, hfollows⟩ := answer_eq_redirect hanswer
          rw [exchange]
          simp only [hanswer]
          exact .redirected _ _ _ _ _ r target hrespond hredirect hfollows (ih _ _)

/-- No reply counts for an address without a scheme. -/
theorem outcome_exchange_ne_ok (h : request.address.scheme.isEmpty = true) (x : Uri × Reply) :
    (exchange network follows left count request).outcome ≠ .ok x := by
  cases hanswer : answer follows request (network.respond count) with
  | final outcome =>
      rw [exchange_of_final hanswer]
      rintro rfl
      have hscheme := (answer_eq_final_ok hanswer).2
      rw [h] at hscheme
      cases hscheme
  | redirect r target =>
      have hscheme := (answer_eq_redirect hanswer).2.1
      rw [h] at hscheme
      cases hscheme

end Exchange

namespace Chain

variable {network : Network} {follows : Bool} {left count : Nat} {request : Request} {e : Exchange}

theorem length_sent_le (h : Chain network follows left count request e) :
    e.sent.length ≤ left + 1 := by
  induction h with
  | ended left count request e hsent _ =>
      rw [hsent, List.length_singleton]
      omega
  | redirected left count request log e r target _ _ _ _ ih =>
      rw [Exchange.after, List.length_cons]
      omega

/-- A client that does not follow redirects sends one request. -/
theorem sent_eq_singleton (h : Chain network false left count request e) :
    e.sent = [request] := by
  cases h with
  | ended _ _ _ _ hsent _ => exact hsent
  | redirected _ _ _ _ _ _ _ _ _ hfollows _ => cases hfollows

theorem head?_sent (h : Chain network follows left count request e) :
    e.sent.head? = some request := by
  cases h with
  | ended _ _ _ _ hsent _ => rw [hsent, List.head?_cons]
  | redirected _ _ _ _ _ _ _ _ _ _ _ => rfl

theorem length_sent_pos (h : Chain network follows left count request e) : 0 < e.sent.length := by
  rw [List.length_pos_iff]
  rintro hnil
  have hhead := h.head?_sent
  rw [hnil] at hhead
  cases hhead

/-- What holds of the first request and survives every redirect holds of all requests. -/
theorem forall_mem_sent {P : Request → Prop}
    (hstep : ∀ q status target, P q → P (q.redirected status target))
    (h : Chain network follows left count request e) (hfirst : P request) :
    ∀ q ∈ e.sent, P q := by
  induction h with
  | ended left count request e hsent _ =>
      rw [hsent]
      intro q hq
      rw [List.mem_singleton] at hq
      exact hq ▸ hfirst
  | redirected left count request log e r target _ _ _ _ ih =>
      intro q hq
      rcases List.mem_cons.1 hq with rfl | hq
      · exact hfirst
      · exact ih (hstep request r.status target hfirst) q hq

/-- Every reply but the last one redirects. -/
theorem exists_redirect (h : Chain network follows left count request e) {i : Nat}
    (hi : i + 1 < e.sent.length) :
    ∃ r, network.respond (count + i) = .reply r ∧ r.redirect?.isSome := by
  induction h generalizing i with
  | ended left count request e hsent _ =>
      rw [hsent, List.length_singleton] at hi
      omega
  | redirected left count request log e r target hrespond hredirect _ _ ih =>
      cases i with
      | zero => exact ⟨r, hrespond, hredirect⟩
      | succ i =>
          rw [Exchange.after, List.length_cons] at hi
          obtain ⟨s, hs, hloc⟩ := ih (Nat.lt_of_succ_lt_succ hi)
          refine ⟨s, ?_, hloc⟩
          rw [← hs, Nat.add_assoc, Nat.add_comm 1 i]

/-- The reply of an exchange is the one to its last request. -/
theorem respond_last (h : Chain network follows left count request e) {x : Uri × Reply}
    (hx : e.outcome = .ok x) :
    network.respond (count + (e.sent.length - 1)) = .reply x.2 := by
  induction h with
  | ended left count request e hsent hreply =>
      rw [hsent, List.length_singleton]
      exact hreply x hx
  | redirected left count request log e r target _ _ _ hrest ih =>
      have hpos := hrest.length_sent_pos
      have hindex : count + ((e.after request log).sent.length - 1) =
          count + 1 + (e.sent.length - 1) := by
        rw [Exchange.after, List.length_cons]
        omega
      rw [hindex]
      exact ih hx

end Chain

/-! ## What redirects keep -/

namespace Request

/-- A request that gets its resource stays one. -/
theorem method_redirected {q : Request} (h : q.method = "GET") (status : Nat) (target : Uri) :
    (q.redirected status target).method = "GET" := by
  change q.redirectedMethod status = "GET"
  rw [redirectedMethod]
  split
  · rfl
  · split
    · rfl
    · exact h

/-- A redirect keeps the headers that it has no business with. -/
theorem value?_redirected {name : String} (hauthorization : name ≠ "authorization")
    (hlength : name ≠ "content-length") (hcoding : name ≠ "transfer-encoding")
    (hcookie : name ≠ "cookie") (q : Request) (status : Nat) (target : Uri) :
    (q.redirected status target).headers.value? name = q.headers.value? name := by
  change (q.redirectedHeaders target (q.redirectedMethod status)).value? name = _
  unfold redirectedHeaders
  extract_lets trusted bodiless
  have htrusted : trusted.value? name = q.headers.value? name := by
    unfold trusted
    split
    · rfl
    · exact Headers.value?_without hauthorization q.headers
  have hbodiless : bodiless.value? name = trusted.value? name := by
    unfold bodiless
    split
    · rw [Headers.value?_without hcoding, Headers.value?_without hlength]
    · rfl
  rw [Headers.value?_without hcookie, hbodiless, htrusted]

end Request

/-- When a reply redirects. -/
theorem Reply.isSome_redirect?_iff (r : Reply) :
    r.redirect?.isSome ↔
      r.status ∈ [301, 302, 303, 307, 308] ∧ (r.header? "location").isSome := by
  rw [redirect?, ← List.contains_iff_mem]
  split
  · next h => simp only [h, true_and]
  · next h => simp only [h, Option.isSome_none, Bool.false_eq_true, false_and]

end ServiceDoc.Http

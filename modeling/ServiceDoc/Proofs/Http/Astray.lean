import ServiceDoc.Http.Exchange
/-!
# Exchanges that go astray

An exchange may end with an error that tells of an address instead of the transfer. That happens
where a reply leads its request astray, and only there (`outcome_exchange_isStray_iff`): the request
has an address that no reply can be attributed to, or the reply redirects to an address that cannot
be asked. It makes no difference whether the client follows redirects at all.
-/

namespace ServiceDoc.Http

/-- An error that tells of an address and not of the transfer. -/
inductive ExchangeError.IsStray : ExchangeError → Prop where
  | badAddress (e : UriError) : IsStray (.badAddress e)
  | unknownScheme (address : String) : IsStray (.unknownScheme address)

/-- A reply leads the request that it answers astray: the address of the request has no scheme, or
the reply redirects to a text that is an address, but none that can be completed and asked. -/
def LeadsAstray (request : Request) (response : Response) : Prop :=
  ∃ r, response = .reply r ∧
    (request.address.scheme.isEmpty = true ∨
      ∃ location u, r.redirect? = some location ∧ Uri.parse location = .ok u ∧
        ∀ target, redirectTarget request.address location ≠ .ok target)

/-! ## Where a location leads -/

/-- Once a location is an address, whatever else is wrong with it is told of as a bad address. -/
theorem locationTarget_eq_error {request u : Uri} {location : String} {e : ExchangeError}
    (hparse : Uri.parse location = .ok u) (h : locationTarget request location = .error e) :
    ∃ x, e = .badAddress x := by
  unfold locationTarget at h
  rw [hparse] at h
  dsimp only at h
  generalize (if !u.scheme.isEmpty && u.host.isEmpty then u.withHost request.host
    else Except.ok u) = completed at h
  cases completed with
  | error x => exact ⟨x, (Except.error.inj h).symm⟩
  | ok v =>
      dsimp only at h
      generalize (if v.isAbsolute then Except.ok v else request.join v) = joined at h
      cases joined with
      | error x => exact ⟨x, (Except.error.inj h).symm⟩
      | ok w =>
          dsimp only at h
          split at h
          · split at h
            · next x _ => exact ⟨x, (Except.error.inj h).symm⟩
            · cases h
          · cases h

theorem redirectTarget_eq_error {request u : Uri} {location : String} {e : ExchangeError}
    (hparse : Uri.parse location = .ok u) (h : redirectTarget request location = .error e) :
    ∃ x, e = .badAddress x := by
  rw [redirectTarget] at h
  cases htarget : locationTarget request location with
  | error x =>
      rw [htarget] at h
      obtain rfl := Except.error.inj h
      exact locationTarget_eq_error hparse htarget
  | ok target =>
      rw [htarget, Except.bind] at h
      cases hhosted : hosted target with
      | ok v =>
          rw [hhosted] at h
          cases h
      | error x =>
          rw [hhosted] at h
          exact ⟨x, (Except.error.inj h).symm⟩

theorem redirectTarget_of_parse_eq_error {request : Uri} {location : String} {e : UriError}
    (hparse : Uri.parse location = .error e) :
    redirectTarget request location = .error (.badLocation e) := by
  rw [redirectTarget, locationTarget, hparse]
  rfl

/-- A redirect goes astray where the location is an address and leads nowhere. -/
theorem exists_isStray_redirectTarget_iff (request : Uri) (location : String) :
    (∃ e, redirectTarget request location = .error e ∧ e.IsStray) ↔
      ∃ u, Uri.parse location = .ok u ∧ ∀ target, redirectTarget request location ≠ .ok target := by
  cases hparse : Uri.parse location with
  | error x =>
      rw [redirectTarget_of_parse_eq_error hparse]
      constructor
      · rintro ⟨e, he, hstray⟩
        obtain rfl := Except.error.inj he
        cases hstray
      · rintro ⟨u, hu, -⟩
        cases hu
  | ok u =>
      constructor
      · rintro ⟨e, he, -⟩
        refine ⟨u, rfl, fun target htarget => ?_⟩
        rw [he] at htarget
        cases htarget
      · rintro ⟨-, -, hnone⟩
        cases htarget : redirectTarget request location with
        | ok target => exact absurd htarget (hnone target)
        | error e =>
            obtain ⟨x, rfl⟩ := redirectTarget_eq_error hparse htarget
            exact ⟨_, rfl, .badAddress x⟩

/-! ## Answers and exchanges -/

/-- A reply leads its request astray exactly where it ends the exchange with such an error. -/
theorem leadsAstray_iff (follows : Bool) (request : Request) (response : Response) :
    LeadsAstray request response ↔
      ∃ e, answer follows request response = .final (.error e) ∧ e.IsStray := by
  cases response with
  | failure kind message =>
      constructor
      · rintro ⟨r, hr, -⟩
        cases hr
      · rintro ⟨e, he, hstray⟩
        cases he
        cases hstray
  | reply r =>
      have hleads : LeadsAstray request (.reply r) ↔
          request.address.scheme.isEmpty = true ∨
            ∃ location u, r.redirect? = some location ∧ Uri.parse location = .ok u ∧
              ∀ target, redirectTarget request.address location ≠ .ok target := by
        simp [LeadsAstray]
      rw [hleads, answer]
      cases hscheme : request.address.scheme.isEmpty with
      | true => simpa using ExchangeError.IsStray.unknownScheme _
      | false =>
          rw [if_neg Bool.false_ne_true]
          cases hredirect : r.redirect? with
          | none => simp
          | some location =>
              have htarget := exists_isStray_redirectTarget_iff request.address location
              cases houtcome : redirectTarget request.address location with
              | error e => simpa [houtcome] using htarget.symm
              | ok target =>
                cases follows <;> simp [houtcome]

/-- Some request of a list is led astray, where the first one gets the response of an index. -/
def GoesAstray (network : Network) (count : Nat) (sent : List Request) : Prop :=
  ∃ i q, sent[i]? = some q ∧ LeadsAstray q (network.respond (count + i))

theorem goesAstray_nil (network : Network) (count : Nat) : ¬ GoesAstray network count [] := by
  rintro ⟨i, q, hq, -⟩
  rw [List.getElem?_nil] at hq
  cases hq

theorem goesAstray_cons (network : Network) (count : Nat) (request : Request)
    (sent : List Request) :
    GoesAstray network count (request :: sent) ↔
      LeadsAstray request (network.respond count) ∨ GoesAstray network (count + 1) sent := by
  constructor
  · rintro ⟨i, q, hq, hstray⟩
    cases i with
    | zero =>
        obtain rfl := Option.some.inj hq
        exact .inl hstray
    | succ i =>
        refine .inr ⟨i, q, hq, ?_⟩
        rwa [Nat.add_right_comm]
  · rintro (hstray | ⟨i, q, hq, hstray⟩)
    · exact ⟨0, request, rfl, hstray⟩
    · refine ⟨i + 1, q, hq, ?_⟩
      rwa [Nat.add_right_comm] at hstray

theorem goesAstray_singleton (network : Network) (count : Nat) (request : Request) :
    GoesAstray network count [request] ↔ LeadsAstray request (network.respond count) := by
  rw [goesAstray_cons, or_iff_left (goesAstray_nil network (count + 1))]

section Exchange

variable (network : Network) (follows : Bool) (left count : Nat) (request : Request)

/-- What ends an exchange at once is its outcome. -/
theorem outcome_isStray_iff_of_final {outcome : Except ExchangeError (Uri × Reply)}
    (h : answer follows request (network.respond count) = .final outcome) :
    (∃ e, outcome = .error e ∧ e.IsStray) ↔ GoesAstray network count [request] := by
  rw [goesAstray_singleton, leadsAstray_iff follows, h]
  simp

/-- A reply that redirects does not lead astray. -/
theorem not_leadsAstray_of_redirect {r : Reply} {target : Uri}
    (h : answer follows request (network.respond count) = .redirect r target) :
    ¬ LeadsAstray request (network.respond count) := by
  rw [leadsAstray_iff follows, h]
  simp

/-- An exchange goes astray exactly where a reply leads one of its requests astray. -/
theorem outcome_exchange_isStray_iff :
    (∃ e, (exchange network follows left count request).outcome = .error e ∧ e.IsStray) ↔
      GoesAstray network count (exchange network follows left count request).sent := by
  -- Each redirect that is followed takes one away from those left and uses one response up.
  induction left generalizing count request with
  | zero =>
      rw [exchange]
      cases hanswer : answer follows request (network.respond count) with
      | final outcome => exact outcome_isStray_iff_of_final network follows count request hanswer
      | redirect r target =>
          dsimp only
          rw [goesAstray_singleton]
          refine iff_of_false ?_ (not_leadsAstray_of_redirect network follows count request hanswer)
          rintro ⟨e, he, hstray⟩
          cases he
          cases hstray
  | succ left ih =>
      rw [exchange]
      cases hanswer : answer follows request (network.respond count) with
      | final outcome => exact outcome_isStray_iff_of_final network follows count request hanswer
      | redirect r target =>
          dsimp only [Exchange.after]
          rw [goesAstray_cons,
            or_iff_right (not_leadsAstray_of_redirect network follows count request hanswer)]
          exact ih (count + 1) (request.redirected r.status target)

end Exchange

end ServiceDoc.Http

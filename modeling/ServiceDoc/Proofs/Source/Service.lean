import Mathlib
import ServiceDoc.Proofs.Http.Chain
import ServiceDoc.Proofs.Uri.Metadata
import ServiceDoc.Source.Load
/-!
# Loading from a service

Which requests go to a service, and which reply is taken for its metadata. The requests are a chain
of redirects, and the bytes are those of a success at its end, behind redirects only
(`load_service`). An address without a host is none that a request can be sent to: the request names
a path alone, and whatever is replied to it is not taken.
-/

namespace ServiceDoc

namespace Http

theorem eq_of_hosted {u v : Uri} (h : hosted u = .ok v) : v = u := by
  rw [hosted] at h
  split at h
  · cases h
  · exact (Except.ok.inj h).symm

/-- The address of a service is sent as it is. -/
theorem eq_of_requestAddress {u v : Uri} (h : requestAddress u = .ok v)
    (hu : u.isAbsolute = true) : v = u := by
  rw [requestAddress, if_pos hu] at h
  exact eq_of_hosted h

theorem scheme_isEmpty_of_requestAddress {u v : Uri} (h : requestAddress u = .ok v)
    (hu : u.isAbsolute = false) : v.scheme.isEmpty = true := by
  rw [requestAddress, hu] at h
  rw [Uri.scheme_of_ofCheckedParts h]
  rfl

end Http

namespace Source

open Http (Network Request)

/-- Asks for metadata the way a service expects it. -/
def AsksForMetadata (q : Request) : Prop :=
  q.method = "GET" ∧ q.headers.value? "accept" = some "application/xml"

theorem asksForMetadata_metadataRequest (address : Uri) :
    AsksForMetadata (metadataRequest address) := by
  refine ⟨rfl, ?_⟩
  cbv

theorem asksForMetadata_redirected (q : Request) (status : Nat) (target : Uri)
    (h : AsksForMetadata q) : AsksForMetadata (q.redirected status target) := by
  refine ⟨Http.Request.method_redirected h.1 status target, ?_⟩
  rw [Http.Request.value?_redirected (by decide) (by decide) (by decide) (by decide), h.2]

/-- The bytes of an exchange are the body of its reply, which is a success. -/
theorem body_eq_ok {e : Http.Exchange} {bytes : List UInt8} (h : body e = .ok bytes) :
    ∃ x, e.outcome = .ok x ∧ x.2.isSuccess = true ∧ x.2.body = bytes := by
  rw [body] at h
  split at h
  · cases h
  · next address r houtcome =>
    split at h
    · next hsuccess => exact ⟨(address, r), houtcome, hsuccess, Except.ok.inj h⟩
    · cases h

theorem isSuccess_iff (r : Http.Reply) : r.isSuccess = true ↔ 200 ≤ r.status ∧ r.status < 300 := by
  simp [Http.Reply.isSuccess]

/-- Loading from a service sends no request, as its address cannot be taken, or it is an exchange
that starts with a request for that address. -/
theorem loadService_cases (network : Network) (follows : Bool) {service address : String}
    (h : Uri.metadataText service = .ok address) :
    ((loadService network follows service).sent = [] ∧
        ∃ e, (loadService network follows service).outcome = .error e) ∨
      ∃ u v, Uri.parse address = .ok u ∧ Http.requestAddress u = .ok v ∧
        (loadService network follows service).sent =
          (Http.exchange network follows 20 0 (metadataRequest v)).sent ∧
        (loadService network follows service).outcome =
          body (Http.exchange network follows 20 0 (metadataRequest v)) := by
  rw [loadService, h]
  dsimp only
  cases hparse : Uri.parse address with
  | error e => exact .inl ⟨rfl, _, rfl⟩
  | ok u =>
      cases hsend : Http.requestAddress u with
      | error e =>
          simp only [Except.bind, hsend]
          exact .inl ⟨trivial, _, rfl⟩
      | ok v =>
          simp only [Except.bind, hsend]
          exact .inr ⟨u, v, rfl, hsend, rfl, rfl⟩

/-- Loading from a service sends at most 21 requests, or one if redirects are not followed, all of
them for metadata; the first one goes to the address of the metadata. The bytes it yields are the
body of a success, the reply to the last request, and all replies before that one redirect. -/
theorem load_service (files : FileTree) (network : Network) (follows : Bool)
    {source address : String} (hsource : isAddress source = true)
    (haddress : Uri.metadataText source = .ok address) :
    (load files network follows source).sent.length ≤ (if follows then 21 else 1) ∧
      (∀ q ∈ (load files network follows source).sent,
        q.method = "GET" ∧ q.headers.value? "accept" = some "application/xml") ∧
      (∀ q, (load files network follows source).sent.head? = some q →
        ∃ u, Uri.parse address = .ok u ∧
          if u.isAbsolute then q.address = u
          else Http.requestAddress u = .ok q.address ∧
            ∀ bytes, (load files network follows source).outcome ≠ .ok bytes) ∧
      ∀ bytes, (load files network follows source).outcome = .ok bytes →
        ∃ last r, (load files network follows source).sent.length = last + 1 ∧
          network.respond last = .reply r ∧ r.body = bytes ∧ 200 ≤ r.status ∧ r.status < 300 ∧
          ∀ i < last, ∃ s, network.respond i = .reply s ∧
            s.status ∈ [301, 302, 303, 307, 308] ∧ (s.header? "location").isSome := by
  rw [load, if_pos hsource]
  rcases loadService_cases network follows haddress with
    ⟨hsent, e, houtcome⟩ | ⟨u, v, hparse, hsend, hsent, houtcome⟩
  · rw [hsent, houtcome]
    exact ⟨Nat.zero_le _, by simp, by simp, by simp⟩
  · have hchain := Http.chain_exchange network follows 20 0 (metadataRequest v)
    rw [hsent, houtcome]
    refine ⟨?_, ?_, ?_, ?_⟩
    · cases follows with
      | true => exact hchain.length_sent_le
      | false =>
          rw [hchain.sent_eq_singleton]
          exact Nat.le_refl 1
    · exact hchain.forall_mem_sent asksForMetadata_redirected (asksForMetadata_metadataRequest v)
    · intro q hq
      rw [hchain.head?_sent] at hq
      obtain rfl := Option.some.inj hq
      refine ⟨u, hparse, ?_⟩
      cases habsolute : u.isAbsolute with
      | true =>
          rw [if_pos rfl]
          exact Http.eq_of_requestAddress hsend habsolute
      | false =>
          rw [if_neg Bool.false_ne_true]
          refine ⟨hsend, fun bytes hbytes => ?_⟩
          obtain ⟨x, hx, -⟩ := body_eq_ok hbytes
          exact Http.outcome_exchange_ne_ok network follows 20 0 _
            (Http.scheme_isEmpty_of_requestAddress hsend habsolute) x hx
    · intro bytes hbytes
      obtain ⟨x, hx, hsuccess, hbody⟩ := body_eq_ok hbytes
      obtain ⟨last, hlast⟩ := Nat.exists_eq_add_one_of_ne_zero (Nat.ne_of_gt hchain.length_sent_pos)
      have hrespond := hchain.respond_last hx
      rw [hlast, Nat.zero_add, Nat.add_sub_cancel] at hrespond
      obtain ⟨hlow, hhigh⟩ := (isSuccess_iff x.2).1 hsuccess
      refine ⟨last, x.2, hlast, hrespond, hbody, hlow, hhigh, fun i hi => ?_⟩
      obtain ⟨s, hs, hredirect⟩ := hchain.exists_redirect (i := i) (by omega)
      rw [Nat.zero_add] at hs
      exact ⟨s, hs, s.isSome_redirect?_iff.1 hredirect⟩

/-- A service that has moved to another host. -/
def movedNetwork : Network :=
  [.reply { status := 308, headers := [("Location", "https://b/m")] }, .reply { body := [60] }]

/-- The first reply redirects, so the bytes are those of the second one. -/
theorem load_service_movedNetwork :
    isAddress "http://a/o" = true ∧
      Uri.metadataText "http://a/o" = .ok "http://a/o/$metadata" ∧
      (load ⟨["home"], []⟩ movedNetwork true "http://a/o").outcome = .ok [60] ∧
      ∃ last r, (load ⟨["home"], []⟩ movedNetwork true "http://a/o").sent.length = last + 1 ∧
        movedNetwork.respond last = .reply r ∧ r.body = [60] ∧ 200 ≤ r.status ∧ r.status < 300 ∧
        ∀ i < last, ∃ s, movedNetwork.respond i = .reply s ∧
          s.status ∈ [301, 302, 303, 307, 308] ∧ (s.header? "location").isSome := by
  let service : Uri := ⟨"http", "", "a", none, "/o", none, none⟩
  let metadata : Uri := ⟨"http", "", "a", none, "/o/$metadata", none, none⟩
  have hsource : isAddress "http://a/o" = true := by cbv
  have hservice : Uri.parse "http://a/o" = .ok service := by cbv
  have hpath : Uri.trimSlashes service.decodedPath = "/o".toList := by cbv
  have htext : metadata.toText = "http://a/o/$metadata" := by cbv
  have haddress : Uri.metadataText "http://a/o" = .ok "http://a/o/$metadata" := by
    rw [← htext]
    exact Uri.metadataText_of_withPath hservice hpath (by decide) (by cbv)
  have hparse : Uri.parse "http://a/o/$metadata" = .ok metadata := by cbv
  have hsend : Http.requestAddress metadata = .ok metadata := by cbv
  have hbody : body (Http.exchange movedNetwork true Http.maxRedirects 0
      (metadataRequest metadata)) = .ok [60] := by
    cbv
  have houtcome : (load ⟨["home"], []⟩ movedNetwork true "http://a/o").outcome = .ok [60] := by
    rw [load, if_pos hsource, loadService, haddress]
    simp only [hparse, Except.bind, hsend, hbody]
  exact ⟨hsource, haddress, houtcome,
    (load_service ⟨["home"], []⟩ movedNetwork true hsource haddress).2.2.2 [60] houtcome⟩

/-- Without a host, the request does not go to the address of the metadata. -/
theorem load_service_withoutHost :
    isAddress "https:///odata" = true ∧
      Uri.metadataText "https:///odata" = .ok "https:/odata/$metadata" ∧
      ∃ u q, Uri.parse "https:/odata/$metadata" = .ok u ∧
        (load ⟨["home"], []⟩ [.reply {}] true "https:///odata").sent.head? = some q ∧
        q.address ≠ u ∧ q.address.toText = "/odata/$metadata" := by
  let service : Uri := ⟨"https", "", "", none, "/odata", none, none⟩
  let metadata : Uri := ⟨"https", "", "", none, "/odata/$metadata", none, none⟩
  let sent : Uri := ⟨"", "", "", none, "/odata/$metadata", none, none⟩
  have hsource : isAddress "https:///odata" = true := by cbv
  have hservice : Uri.parse "https:///odata" = .ok service := by cbv
  have hpath : Uri.trimSlashes service.decodedPath = "/odata".toList := by cbv
  have htext : metadata.toText = "https:/odata/$metadata" := by cbv
  have haddress : Uri.metadataText "https:///odata" = .ok "https:/odata/$metadata" := by
    rw [← htext]
    exact Uri.metadataText_of_withPath hservice hpath (by decide) (by cbv)
  have hparse : Uri.parse "https:/odata/$metadata" = .ok metadata := by cbv
  have hsend : Http.requestAddress metadata = .ok sent := by cbv
  have hhead : (load ⟨["home"], []⟩ [.reply {}] true "https:///odata").sent.head? =
      some (metadataRequest sent) := by
    rw [load, if_pos hsource, loadService, haddress]
    simp only [hparse, Except.bind, hsend]
    exact (Http.chain_exchange _ _ _ _ _).head?_sent
  exact ⟨hsource, haddress, metadata, metadataRequest sent, hparse, hhead, by decide, by cbv⟩

end Source

end ServiceDoc

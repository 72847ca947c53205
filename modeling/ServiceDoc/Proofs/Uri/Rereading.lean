import Mathlib
import ServiceDoc.Proofs.Uri.Label
import ServiceDoc.Proofs.Uri.Parts
/-!
# Components that are read again

An address of a service that has been read holds each component as it is written. Where its path is
replaced, the other components are read once more. They stay what they are, but for the host
(`IsRead.ofParts_of_path`): percent codes in it may make it look like a numeric address that it is
not, and then it is refused (`exists_readHost_writtenHost_iff`).
-/

namespace ServiceDoc.Uri

/-! ## Characters -/

theorem isControl_of_isGraphicBut {excluded : List Char} {c : Char}
    (h : isGraphicBut excluded c = true) : isControl c = false := by
  simp only [isGraphicBut, Bool.and_eq_true, decide_eq_true_eq] at h
  simp only [isControl, Bool.or_eq_false_iff, decide_eq_false_iff_not]
  omega

theorem isControl_of_isUserSafe {c : Char} (h : isUserSafe c = true) : isControl c = false := by
  rw [isUserSafe, Bool.and_eq_true] at h
  exact isControl_of_isGraphicBut h.1

theorem isNameChar_of_mem_toString {n : Int} {c : Char} (h : c ∈ (toString n).toList) :
    isNameChar c = true := by
  rcases Text.isDigit_or_of_mem_toString h with hdigit | rfl
  · simp [isNameChar, Char.isAlphanum, hdigit]
  · decide

theorem toNat_of_isHostSafe {c : Char} (h : isHostSafe c = true) :
    0x20 < c.toNat ∧ c.toNat < 0x7F := by
  have hmarks : (['~', '\x22', '\x60', '\x7b', '\x7d', '%', '|', '\\'] ++
      "!$&'()*+,;=".toList).all (fun c => 0x20 < c.toNat && c.toNat < 0x7F) = true := by
    decide
  rw [isHostSafe, isUnreserved, ← isNameChar] at h
  by_cases hname : isNameChar c = true
  · exact toNat_of_isNameChar hname
  · have hmem : c ∈ ['~', '\x22', '\x60', '\x7b', '\x7d', '%', '|', '\\'] ++
        "!$&'()*+,;=".toList := by
      simp only [hname, Bool.false_or, Bool.or_eq_true, decide_eq_true_eq,
        List.contains_iff_mem] at h
      rw [List.mem_append, List.mem_cons]
      tauto
    simpa using List.all_eq_true.1 hmarks c hmem

theorem keepsCodes_isHostSafe : KeepsCodes isHostSafe := ⟨by decide, by decide⟩

/-- A character that may stand in an authority: it neither ends it nor is a control character. -/
def IsAuthorityChar (c : Char) : Prop := c ≠ '/' ∧ c ≠ '?' ∧ c ≠ '#' ∧ isControl c = false

theorem isAuthorityChar_of_isHostSafe {c : Char} (h : isHostSafe c = true) :
    IsAuthorityChar c ∧ c ≠ '@' := by
  have hrange := toNat_of_isHostSafe h
  have hne (d : Char) (hd : isHostSafe d = false) : c ≠ d := by
    rintro rfl
    rw [h] at hd
    cases hd
  refine ⟨⟨hne _ (by decide), hne _ (by decide), hne _ (by decide), ?_⟩, hne _ (by decide)⟩
  simp only [isControl, Bool.or_eq_false_iff, decide_eq_false_iff_not]
  omega

theorem isAuthorityChar_of_isUserSafe {c : Char} (h : isUserSafe c = true) : IsAuthorityChar c := by
  have hne (d : Char) (hd : isUserSafe d = false) : c ≠ d := by
    rintro rfl
    rw [h] at hd
    cases hd
  exact ⟨hne _ (by decide), hne _ (by decide), hne _ (by decide), isControl_of_isUserSafe h⟩

theorem firstControl?_eq_none_iff (cs : List Char) (index : Nat) :
    firstControl? index cs = none ↔ ∀ c ∈ cs, isControl c = false := by
  induction cs generalizing index with
  | nil => simp [firstControl?]
  | cons c cs ih =>
      rw [firstControl?, List.forall_mem_cons, ← ih (index + 1)]
      cases isControl c <;> simp

/-! ## Hosts -/

/-- A host as it is read: a numeric address of version 6, or a text of the characters of hosts. -/
inductive IsReadHost (host : List Char) : Prop where
  | numeric (hnumeric : isIpv6 host = true) (hchar : ∀ c ∈ host, IsAuthorityChar c ∧ c ≠ '@')
  | name (hsafe : ∀ c ∈ host, isHostSafe c = true)

/-- A host as an address shows it: a colon in it calls for brackets. -/
def writtenHost (host : List Char) : List Char :=
  if host.contains ':' then '[' :: host ++ [']'] else host

/-- A host that does not look like a numeric address without being one. -/
def IsLegible (host : List Char) : Prop :=
  ':' ∉ host → looksIpv4 host = true → isIpv4 host = true

theorem isDigit_or_of_isIpv4 {host : List Char} (h : isIpv4 host = true) {c : Char}
    (hc : c ∈ host) : c.isDigit = true ∨ c = '.' := by
  simp only [isIpv4, Bool.and_eq_true] at h
  have hparts : ['.'].intercalate (host.splitOn '.') = host := List.intercalate_splitOn '.'
  rw [← hparts] at hc
  rcases mem_intercalate hc with rfl | ⟨part, hpart, hc⟩
  · exact .inr rfl
  · have hoctet := List.all_eq_true.1 h.2 part hpart
    simp only [isOctet, Bool.and_eq_true] at hoctet
    exact .inl (List.all_eq_true.1 hoctet.1.1.1.2 c hc)

theorem isReadHost_of_readHost {raw host : List Char}
    (hraw : ∀ c ∈ raw, IsAuthorityChar c ∧ c ≠ '@') (h : readHost raw = .ok host) :
    IsReadHost host := by
  rw [readHost] at h
  split at h
  · obtain rfl := Except.ok.inj h
    exact .name (by simp)
  split at h
  · split at h
    · next hnumeric =>
      obtain rfl := Except.ok.inj h
      refine .name fun c hc => isHostSafe_of_isNameChar ?_
      rcases isDigit_or_of_isIpv4 hnumeric hc with hdigit | rfl
      · simp [isNameChar, Char.isAlphanum, hdigit]
      · decide
    · cases h
  split at h
  · split at h
    · next hnumeric =>
      obtain rfl := Except.ok.inj h
      exact .numeric hnumeric fun c hc =>
        hraw c (List.mem_of_mem_tail (List.mem_of_mem_dropLast hc))
    · cases h
  split at h
  · obtain rfl := Except.ok.inj h
    exact .name fun c => isSafe_of_mem_percentEncode keepsCodes_isHostSafe
  · split at h
    · next name hencode =>
      obtain rfl := Except.ok.inj h
      exact .name fun c hc => isHostSafe_of_isNameChar (Idna.isNameChar_of_mem_encode? hencode hc)
    · cases h

theorem looksIpv4_cons_of_not_isDigit {c : Char} (h : c.isDigit = false) (cs : List Char) :
    looksIpv4 (c :: cs) = false := by
  have hnone : ∀ cs : List Char, cs.foldl (fun stages c => dottedStages c stages) [] = [] := by
    intro cs
    induction cs with
    | nil => rfl
    | cons d cs ih => exact ih
  have hstart : dottedStages c [0] = [] := by
    simp [dottedStages, h]
  rw [looksIpv4, List.foldl_cons, hstart, hnone]
  rfl

section ReadHost

variable {host : List Char}

theorem writtenHost_of_isIpv6 (h : isIpv6 host = true) :
    writtenHost host = '[' :: host ++ [']'] := by
  rw [writtenHost, if_pos (by simpa using colon_mem_of_isIpv6 h)]

theorem notMem_of_isHostSafe (h : ∀ c ∈ host, isHostSafe c = true) {c : Char}
    (hc : isHostSafe c = false) : c ∉ host := by
  intro hmem
  rw [h c hmem] at hc
  cases hc

theorem writtenHost_of_isHostSafe (h : ∀ c ∈ host, isHostSafe c = true) :
    writtenHost host = host := by
  rw [writtenHost, if_neg (by simpa using notMem_of_isHostSafe h (c := ':') (by decide))]

theorem readHost_writtenHost_of_isIpv6 (h : isIpv6 host = true) :
    readHost (writtenHost host) = .ok host := by
  have hlooks : looksIpv4 ('[' :: host ++ [']']) = false :=
    looksIpv4_cons_of_not_isDigit (by decide) (host ++ [']'])
  have hinner : ('[' :: host ++ [']']).tail.dropLast = host := by simp
  have hlast : ('[' :: (host ++ [']'])).getLast? = some ']' :=
    List.getLast?_concat (l := '[' :: host)
  rw [writtenHost_of_isIpv6 h, readHost, if_neg (by simp), hlooks, if_neg Bool.false_ne_true,
    if_pos (by simp [hlast]), hinner, if_pos h]

theorem readHost_of_isHostSafe (h : ∀ c ∈ host, isHostSafe c = true) (hne : host ≠ [])
    (hlooks : looksIpv4 host = false) :
    readHost host = .ok (percentEncode isHostSafe (host.map Char.toLower)) := by
  have hbracket : host.head? ≠ some '[' := fun hhead =>
    notMem_of_isHostSafe h (by decide) (List.mem_of_mem_head? hhead)
  have hascii : host.all (fun c => c.toNat < 0x80) = true :=
    List.all_eq_true.2 fun c hc =>
      decide_eq_true (Nat.lt_trans (toNat_of_isHostSafe (h c hc)).2 (by decide))
  rw [readHost, if_neg (by simpa using hne), hlooks, if_neg Bool.false_ne_true,
    if_neg (by simp [hbracket]), if_pos hascii]

/-- A host that has been read can be read again if it is legible, and only then. -/
theorem exists_readHost_writtenHost_iff (h : IsReadHost host) (hne : host ≠ []) :
    (∃ again, readHost (writtenHost host) = .ok again) ↔ IsLegible host := by
  cases h with
  | numeric hnumeric hchar =>
      exact iff_of_true ⟨host, readHost_writtenHost_of_isIpv6 hnumeric⟩
        fun hcolon => absurd (colon_mem_of_isIpv6 hnumeric) hcolon
  | name hsafe =>
      have hcolon : ':' ∉ host := notMem_of_isHostSafe hsafe (by decide)
      rw [writtenHost_of_isHostSafe hsafe]
      cases hlooks : looksIpv4 host with
      | false =>
          exact iff_of_true ⟨_, readHost_of_isHostSafe hsafe hne hlooks⟩
            fun _ hlook => absurd hlook (by simp [hlooks])
      | true =>
          have hempty : host.isEmpty = false := by simpa using hne
          rw [readHost, hempty, if_neg Bool.false_ne_true, hlooks, if_pos rfl]
          cases hnumeric : isIpv4 host with
          | true => exact iff_of_true ⟨host, rfl⟩ fun _ _ => hnumeric
          | false =>
              refine iff_of_false (by simp) fun hlegible => ?_
              have hself := hlegible hcolon hlooks
              rw [hnumeric] at hself
              cases hself

theorem ne_nil_of_readHost_writtenHost (h : IsReadHost host) (hne : host ≠ []) {again : List Char}
    (hagain : readHost (writtenHost host) = .ok again) : again ≠ [] := by
  cases h with
  | numeric hnumeric hchar =>
      rw [readHost_writtenHost_of_isIpv6 hnumeric] at hagain
      exact Except.ok.inj hagain ▸ hne
  | name hsafe =>
      rw [writtenHost_of_isHostSafe hsafe] at hagain
      cases hlooks : looksIpv4 host with
      | false =>
          rw [readHost_of_isHostSafe hsafe hne hlooks] at hagain
          obtain rfl := Except.ok.inj hagain
          exact percentEncode_ne_nil (by simpa using hne)
      | true =>
          have hempty : host.isEmpty = false := by simpa using hne
          rw [readHost, hempty, if_neg Bool.false_ne_true, hlooks, if_pos rfl] at hagain
          split at hagain
          · exact Except.ok.inj hagain ▸ hne
          · cases hagain

end ReadHost

/-! ## Addresses -/

/-- An address of a service that has been read: its components are as they are written. -/
structure IsRead (u : Uri) : Prop where
  scheme : u.scheme = "http" ∨ u.scheme = "https"
  userinfo : ∀ c ∈ u.userinfo.toList, isUserSafe c = true
  host_ne : u.host.toList ≠ []
  host : IsReadHost u.host.toList
  port_digits : ∀ n ∈ u.port?, (Nat.toDigits 10 n.natAbs).length ≤ 4300
  port_unusual : ∀ n ∈ u.port?, usualPort? u.scheme.toList ≠ some n
  rooted : IsRooted u.path.toList
  path_safe : ∀ c ∈ u.path.toList, isPathSafe c = true
  query_safe : ∀ q ∈ u.query?, ∀ c ∈ q.toList, isQuerySafe c = true
  fragment_safe : ∀ f ∈ u.fragment?, ∀ c ∈ f.toList, isFragmentSafe c = true

/-- An address is made of the components that a text has, each brought into normal form. -/
theorem exists_of_ofParts {p : Parts} {u : Uri} (h : ofParts p = .ok u) :
    ∃ host port? path, readHost (splitHost (splitLast '@' p.authority).2).1 = .ok host ∧
      readPort p.scheme (splitHost (splitLast '@' p.authority).2).2 = .ok port? ∧
      (p.scheme ≠ [] → path = normalizePath p.path) ∧
      u = {
        scheme := String.ofList (p.scheme.map Char.toLower)
        userinfo := String.ofList (percentEncode isUserSafe (splitLast '@' p.authority).1)
        host := String.ofList host
        port? := port?
        path := String.ofList (percentEncode isPathSafe path)
        query? := p.query?.map fun q => String.ofList (percentEncode isQuerySafe q)
        fragment? := p.fragment?.map fun f => String.ofList (percentEncode isFragmentSafe f) } := by
  rw [ofParts] at h
  dsimp only at h
  split at h
  · cases h
  next host hhost =>
  split at h
  · cases h
  next port? hport =>
  split at h
  · cases h
  · refine ⟨host, port?, _, hhost, hport, fun hscheme => ?_, (Except.ok.inj h).symm⟩
    have hempty : (!p.scheme.isEmpty) = true := by simpa using hscheme
    rw [hempty, Bool.true_or, if_pos rfl]

/-- The scheme of an address is the one among its components, in lower case. -/
theorem scheme_of_ofCheckedParts {p : Parts} {u : Uri} (h : ofCheckedParts p = .ok u) :
    u.scheme = String.ofList (p.scheme.map Char.toLower) := by
  rw [ofCheckedParts] at h
  split at h
  · cases h
  · obtain ⟨_, _, _, -, -, -, rfl⟩ := exists_of_ofParts h
    rfl

section Components

variable {p : Parts} {u : Uri} (h : ofParts p = .ok u)

include h

theorem isReadHost_of_ofParts (hauthority : ∀ c ∈ p.authority, IsAuthorityChar c) :
    IsReadHost u.host.toList := by
  obtain ⟨host, port?, path, hhost, -, -, rfl⟩ := exists_of_ofParts h
  rw [String.toList_ofList]
  refine isReadHost_of_readHost (fun c hc => ?_) hhost
  obtain ⟨hmem, hat⟩ := of_mem_splitLast_snd (mem_of_mem_splitHost hc)
  exact ⟨hauthority c hmem, hat⟩

/-- The address that the components of a service make has been read. -/
theorem isRead_of_ofParts (hscheme : p.scheme = "http".toList ∨ p.scheme = "https".toList)
    (hpath : IsRooted p.path) (hne : u.host.toList ≠ []) (hread : IsReadHost u.host.toList) :
    u.IsRead := by
  have hlower : p.scheme.map Char.toLower = p.scheme ∧ p.scheme ≠ [] := by
    rcases hscheme with hs | hs <;> rw [hs] <;> decide
  obtain ⟨host, port?, path, hhost, hport, hnormal, rfl⟩ := exists_of_ofParts h
  rw [hlower.1] at hne hread ⊢
  constructor
  case scheme => exact hscheme.imp (fun hs => by rw [hs]; rfl) (fun hs => by rw [hs]; rfl)
  case userinfo =>
    simp only [String.toList_ofList]
    exact fun c => isSafe_of_mem_percentEncode keepsCodes_isUserSafe
  case host_ne => exact hne
  case host => exact hread
  case port_digits =>
    rintro n (rfl : port? = some n)
    exact (of_readPort hport).1
  case port_unusual =>
    rintro n (rfl : port? = some n)
    simpa only [String.toList_ofList] using (of_readPort hport).2
  case rooted =>
    simp only [String.toList_ofList]
    rw [hnormal hlower.2]
    exact (isNormalPath_normalizePath hpath).percentEncode.rooted
  case path_safe =>
    simp only [String.toList_ofList]
    exact fun c => isSafe_of_mem_percentEncode keepsCodes_isPathSafe
  case query_safe =>
    intro q hq
    obtain ⟨raw, -, rfl⟩ := Option.map_eq_some_iff.1 hq
    simp only [String.toList_ofList]
    exact fun c => isSafe_of_mem_percentEncode keepsCodes_isQuerySafe
  case fragment_safe =>
    intro f hf
    obtain ⟨raw, -, rfl⟩ := Option.map_eq_some_iff.1 hf
    simp only [String.toList_ofList]
    exact fun c => isSafe_of_mem_percentEncode keepsCodes_isFragmentSafe

end Components

namespace IsRead

variable {u : Uri} (h : u.IsRead)

include h

/-- What stands behind the host, with the colon before a port. -/
theorem exists_port : ∃ port : List Char, (∀ c ∈ port.head?, c = ':') ∧
    (∀ c ∈ port, c = ':' ∨ isNameChar c = true) ∧
    readPort u.scheme.toList port.tail = .ok u.port? ∧
    u.authority =
      (if u.userinfo.isEmpty then [] else u.userinfo.toList ++ ['@']) ++
        (writtenHost u.host.toList ++ port) := by
  rw [authority]
  cases hport : u.port? with
  | none => exact ⟨[], by simp, by simp, rfl, by simp [writtenHost]⟩
  | some n =>
      refine ⟨':' :: (toString n).toList, by simp, ?_, ?_, by simp [writtenHost]⟩
      · rw [List.forall_mem_cons]
        exact ⟨.inl rfl, fun c hc => .inr (isNameChar_of_mem_toString hc)⟩
      · exact readPort_toString (h.port_digits n hport) (h.port_unusual n hport)

theorem writtenHost_ne_nil : writtenHost u.host.toList ≠ [] := by
  rw [writtenHost]
  split
  · exact List.cons_ne_nil _ _
  · exact h.host_ne

theorem of_mem_writtenHost {c : Char} (hc : c ∈ writtenHost u.host.toList) :
    IsAuthorityChar c ∧ c ≠ '@' := by
  cases h.host with
  | numeric hnumeric hchar =>
      rw [writtenHost_of_isIpv6 hnumeric, List.mem_append, List.mem_cons, List.mem_singleton] at hc
      rcases hc with (rfl | hc) | rfl
      · exact ⟨⟨by decide, by decide, by decide, by decide⟩, by decide⟩
      · exact hchar c hc
      · exact ⟨⟨by decide, by decide, by decide, by decide⟩, by decide⟩
  | name hname =>
      rw [writtenHost_of_isHostSafe hname] at hc
      exact isAuthorityChar_of_isHostSafe (hname c hc)

theorem isAuthorityChar_of_mem_authority {c : Char} (hc : c ∈ u.authority) :
    IsAuthorityChar c := by
  obtain ⟨port, -, hport, -, hauthority⟩ := h.exists_port
  rw [hauthority, List.mem_append, List.mem_append] at hc
  rcases hc with hc | hc | hc
  · split at hc
    · simp at hc
    · rcases List.mem_append.1 hc with hc | hc
      · exact isAuthorityChar_of_isUserSafe (h.userinfo c hc)
      · rw [List.mem_singleton.1 hc]
        exact ⟨by decide, by decide, by decide, by decide⟩
  · exact (h.of_mem_writtenHost hc).1
  · rcases hport c hc with rfl | hname
    · exact ⟨by decide, by decide, by decide, by decide⟩
    · exact (isAuthorityChar_of_isHostSafe (isHostSafe_of_isNameChar hname)).1

theorem isSeparated_parts : u.parts.IsSeparated where
  scheme := by
    rcases h.scheme with hs | hs
    · rw [parts, hs]
      exact Parts.isScheme_http
    · rw [parts, hs]
      exact Parts.isScheme_https
  authority_ne := by
    obtain ⟨port, -, -, -, hauthority⟩ := h.exists_port
    simp [parts, hauthority, h.writtenHost_ne_nil]
  authority := by
    intro c hc
    obtain ⟨hslash, hquery, hfragment, -⟩ := h.isAuthorityChar_of_mem_authority hc
    exact ⟨hslash, hquery, hfragment⟩
  rooted := h.rooted
  path := by
    intro c hc
    have hsafe := h.path_safe c hc
    refine ⟨?_, ?_⟩
    all_goals
      rintro rfl
      exact absurd hsafe (by decide)
  query := by
    intro q hq hmem
    obtain ⟨q, hq', rfl⟩ := Option.map_eq_some_iff.1 hq
    exact absurd (h.query_safe q hq' _ hmem) (by decide)

theorem ofText_toText : Parts.ofText u.toText.toList = u.parts := by
  rw [toText, String.toList_ofList, Parts.ofText_toList h.isSeparated_parts]

/-- The user information ends at the last at sign, and the host where it is written to. -/
theorem exists_splitLast_authority : ∃ rest port,
    splitLast '@' u.authority = (u.userinfo.toList, rest) ∧
      splitHost rest = (writtenHost u.host.toList, port) ∧
      readPort u.scheme.toList port = .ok u.port? := by
  obtain ⟨port, hhead, hport, hread, hauthority⟩ := h.exists_port
  have hat : '@' ∉ writtenHost u.host.toList ++ port := by
    intro hmem
    rcases List.mem_append.1 hmem with hmem | hmem
    · exact (h.of_mem_writtenHost hmem).2 rfl
    · exact absurd (hport _ hmem) (by decide)
  have hsplit : splitHost (writtenHost u.host.toList ++ port) =
      (writtenHost u.host.toList, port.tail) := by
    cases h.host with
    | numeric hnumeric hchar =>
        rw [writtenHost_of_isIpv6 hnumeric]
        exact splitHost_bracket_append (fun hmem => absurd (hport _ hmem) (by decide)) hhead
    | name hname =>
        rw [writtenHost_of_isHostSafe hname]
        exact splitHost_append (notMem_of_isHostSafe hname (by decide))
          (fun hopen => notMem_of_isHostSafe hname (by decide) (List.mem_of_mem_head? hopen)) hhead
  refine ⟨writtenHost u.host.toList ++ port, port.tail, ?_, hsplit, hread⟩
  rw [hauthority]
  split
  · next hempty =>
    rw [String.isEmpty_iff.1 hempty, List.nil_append, splitLast_of_notMem hat]
    rfl
  · rw [List.append_assoc, List.singleton_append, splitLast_append_cons hat]

/-- With another path, the components make the same address but for the path, provided that the host
can be read again. -/
theorem ofParts_of_path {path : List Char} (hpath : IsRooted path) :
    ofParts { u.parts with path := path } =
      (readHost (writtenHost u.host.toList)).map fun host =>
        { u with
          host := String.ofList host
          path := String.ofList (percentEncode isPathSafe (normalizePath path)) } := by
  obtain ⟨rest, port, hlast, hhost, hport⟩ := h.exists_splitLast_authority
  have hscheme : u.scheme.toList.map Char.toLower = u.scheme.toList ∧
      u.scheme.toList.isEmpty = false := by
    rcases h.scheme with hs | hs <;> rw [hs] <;> decide
  have herror (b : Bool) : pathError? true b path = none := by
    rcases hpath with hnil | hslash
    · simp [pathError?, hnil]
    · simp [pathError?, hslash]
  have hquery : (u.query?.map String.toList).map
      (fun q => String.ofList (percentEncode isQuerySafe q)) = u.query? := by
    cases hq : u.query? with
    | none => rfl
    | some q => simp [percentEncode_eq_self (h.query_safe q hq)]
  have hfragment : (u.fragment?.map String.toList).map
      (fun f => String.ofList (percentEncode isFragmentSafe f)) = u.fragment? := by
    cases hf : u.fragment? with
    | none => rfl
    | some f => simp [percentEncode_eq_self (h.fragment_safe f hf)]
  rw [ofParts]
  dsimp only [parts]
  rw [hlast]
  dsimp only
  rw [hhost]
  dsimp only
  cases readHost (writtenHost u.host.toList) with
  | error e => rfl
  | ok host =>
      dsimp only
      rw [hport]
      dsimp only
      rw [percentEncode_eq_self h.userinfo, hscheme.1, hscheme.2, Bool.not_false, herror]
      dsimp only
      rw [hquery, hfragment, Bool.true_or, if_pos rfl]
      simp only [String.ofList_toList]
      rfl

end IsRead

end ServiceDoc.Uri

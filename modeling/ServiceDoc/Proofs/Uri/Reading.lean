import Mathlib
import ServiceDoc.Proofs.Uri.Rereading
/-!
# Addresses that are read again

What reading brings into normal form stays as it is: the text of such an address is read as the same
address (`parse_toText`). This is about addresses of services, which have a scheme of the web and a
host, and the host is a name of letters, digits and a few marks.
-/

namespace ServiceDoc.Uri

/-- An address of a service in normal form: all components are written as they are read. -/
structure IsNormal (u : Uri) : Prop where
  scheme : u.scheme = "http" ∨ u.scheme = "https"
  userinfo : ∀ c ∈ u.userinfo.toList, isUserSafe c = true
  host_ne : u.host.toList ≠ []
  host_name : ∀ c ∈ u.host.toList, isNameChar c = true
  host_read : readHost u.host.toList = .ok u.host.toList
  port_digits : ∀ n ∈ u.port?, (Nat.toDigits 10 n.natAbs).length ≤ 4300
  port_unusual : ∀ n ∈ u.port?, usualPort? u.scheme.toList ≠ some n
  path : IsNormalPath u.path.toList
  path_safe : ∀ c ∈ u.path.toList, isPathSafe c = true
  query_safe : ∀ q ∈ u.query?, ∀ c ∈ q.toList, isQuerySafe c = true
  fragment_safe : ∀ f ∈ u.fragment?, ∀ c ∈ f.toList, isFragmentSafe c = true

/-! ## Reading makes a normal form -/

theorem isNormal_of_ofParts {p : Parts} {u : Uri} (h : ofParts p = .ok u)
    (hscheme : p.scheme = "http".toList ∨ p.scheme = "https".toList) (hpath : IsRooted p.path)
    (hne : u.host.toList ≠ []) (hname : ∀ c ∈ u.host.toList, isNameChar c = true) :
    u.IsNormal := by
  have hread : u.IsRead := isRead_of_ofParts h hscheme hpath hne
    (.name fun c hc => isHostSafe_of_isNameChar (hname c hc))
  have hscheme_ne : p.scheme ≠ [] := by
    rcases hscheme with hs | hs <;> rw [hs] <;> decide
  obtain ⟨host, port?, path, hhost, -, hnormal, rfl⟩ := exists_of_ofParts h
  simp only [String.toList_ofList] at hname
  exact { hread with
    host_name := by simpa only [String.toList_ofList] using hname
    host_read := by
      simp only [String.toList_ofList]
      exact readHost_readHost hname hhost
    path := by
      simp only [String.toList_ofList]
      rw [hnormal hscheme_ne]
      exact (isNormalPath_normalizePath hpath).percentEncode }

/-! ## Components of a normal form -/

namespace IsNormal

variable {u : Uri} (h : u.IsNormal)

include h

theorem isRead : u.IsRead where
  scheme := h.scheme
  userinfo := h.userinfo
  host_ne := h.host_ne
  host := .name fun c hc => isHostSafe_of_isNameChar (h.host_name c hc)
  port_digits := h.port_digits
  port_unusual := h.port_unusual
  rooted := h.path.rooted
  path_safe := h.path_safe
  query_safe := h.query_safe
  fragment_safe := h.fragment_safe

/-- With another path, the components make the same address but for the path. -/
theorem ofParts_of_path {path : List Char} (hpath : IsRooted path) :
    ofParts { u.parts with path := path } =
      .ok { u with path := String.ofList (percentEncode isPathSafe (normalizePath path)) } := by
  have hsafe : ∀ c ∈ u.host.toList, isHostSafe c = true := fun c hc =>
    isHostSafe_of_isNameChar (h.host_name c hc)
  rw [h.isRead.ofParts_of_path hpath, writtenHost_of_isHostSafe hsafe, h.host_read]
  simp only [Except.map, String.ofList_toList]

theorem ofParts_parts : ofParts u.parts = .ok u := by
  have hread := h.ofParts_of_path h.path.rooted
  rw [normalizePath_eq_self h.path, percentEncode_eq_self h.path_safe,
    String.ofList_toList] at hread
  exact hread

theorem ofText_toText : Parts.ofText u.toText.toList = u.parts :=
  h.isRead.ofText_toText

theorem isControl_of_mem_tail {c : Char} (hc : c ∈ u.parts.tail) : isControl c = false := by
  rw [Parts.tail, parts, List.mem_append] at hc
  rcases hc with hc | hc
  · cases hq : u.query? with
    | none => simp [hq] at hc
    | some q =>
        rw [hq] at hc
        rcases List.mem_cons.1 hc with rfl | hc
        · decide
        · exact isControl_of_isGraphicBut (h.query_safe q hq c hc)
  · cases hf : u.fragment? with
    | none => simp [hf] at hc
    | some f =>
        rw [hf] at hc
        rcases List.mem_cons.1 hc with rfl | hc
        · decide
        · exact isControl_of_isGraphicBut (h.fragment_safe f hf c hc)

theorem isControl_of_mem_toText {c : Char} (hc : c ∈ u.toText.toList) : isControl c = false := by
  rw [toText, String.toList_ofList, Parts.toList_eq h.isRead.isSeparated_parts] at hc
  simp only [List.mem_append, List.mem_cons] at hc
  rcases hc with hc | rfl | rfl | rfl | hc | hc | hc
  · have hscheme : ∀ c ∈ u.scheme.toList, isControl c = false := by
      rcases h.scheme with hs | hs <;> simp [hs, isControl]
    exact hscheme c hc
  · decide
  · decide
  · decide
  · exact (h.isRead.isAuthorityChar_of_mem_authority hc).2.2.2
  · exact isControl_of_isGraphicBut (h.path_safe c hc)
  · exact h.isControl_of_mem_tail hc

/-- The text of an address is read as that address. -/
theorem parse_toText (hlength : u.toText.length ≤ maxLength) : parse u.toText = .ok u := by
  have hcontrol := (firstControl?_eq_none_iff u.toText.toList 0).2 fun c =>
    h.isControl_of_mem_toText
  have hlong : ¬ maxLength < u.toText.toList.length := by
    rw [String.length_toList]
    omega
  rw [parse, ofList, if_neg hlong, hcontrol]
  dsimp only
  rw [h.ofText_toText, h.ofParts_parts]

end IsNormal

end ServiceDoc.Uri

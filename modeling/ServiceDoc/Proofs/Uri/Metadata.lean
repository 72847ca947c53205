import Mathlib
import ServiceDoc.Proofs.Uri.Reading
import ServiceDoc.Uri.Metadata
/-!
# Addresses of metadata are kept

The address of the metadata of a service differs from that of the service in its path only, and
asking for the metadata at that address changes nothing any more (`metadataText_metadataText`). The
last segment of the path is found again behind whatever percent codes are before it, since a slash
is part of none.
-/

namespace ServiceDoc.Uri

/-! ## Paths -/

theorem isRooted_percentDecode {path : List Char} (h : IsRooted path) :
    IsRooted (percentDecode path) := by
  rcases h with rfl | hslash
  · exact .inl percentDecode_nil
  · obtain ⟨r, rfl⟩ := List.head?_eq_some_iff.1 hslash
    have hdecode := percentDecode_append_slash [] r
    rw [percentDecode_nil, List.nil_append, List.nil_append] at hdecode
    rw [hdecode]
    exact .inr rfl

theorem trimSlashes_isPrefix (path : List Char) : trimSlashes path <+: path :=
  List.rdropWhile_prefix _ _

theorem isRooted_trimSlashes_decodedPath {u : Uri} (h : IsRooted u.path.toList) :
    IsRooted (trimSlashes u.decodedPath) := by
  refine (isRooted_percentDecode ?_).of_isPrefix (trimSlashes_isPrefix _)
  split
  · exact .inr rfl
  · exact h

theorem percentDecode_metadataSegment : percentDecode metadataSegment = metadataSegment := by
  cbv

theorem trimSlashes_append_metadataSegment (s : List Char) :
    trimSlashes (s ++ metadataSegment) = s ++ metadataSegment :=
  List.rdropWhile_eq_self_iff.2 fun _ => by
    rw [List.getLast_append_of_ne_nil _ (by decide)]
    decide

/-- An address under the segment of the metadata ends with it after decoding, whatever percent codes
are before it. -/
theorem metadataSegment_suffix_of_path {u : Uri} {path : List Char}
    (h : u.path.toList = path ++ '/' :: metadataSegment) :
    metadataSegment <:+ trimSlashes u.decodedPath := by
  have hne : u.path.isEmpty = false := by
    rw [Bool.eq_false_iff]
    intro hempty
    simp [String.isEmpty_iff.1 hempty] at h
  rw [decodedPath, hne, if_neg Bool.false_ne_true, h, percentDecode_append_slash,
    percentDecode_metadataSegment, List.append_cons, trimSlashes_append_metadataSegment]
  exact List.suffix_append _ _

/-- The segment of the metadata stays the last one in normal form and in percent codes. -/
theorem percentEncode_normalizePath_append {path : List Char} (h : IsRooted path) :
    percentEncode isPathSafe (normalizePath (path ++ '/' :: metadataSegment)) =
      percentEncode isPathSafe (normalizePath path) ++ '/' :: metadataSegment := by
  have hsegment : percentEncode isPathSafe metadataSegment = metadataSegment :=
    percentEncode_eq_self (List.all_eq_true.1 (by decide))
  rw [normalizePath_append_slash h (by decide) (by rw [IsDots]; decide), percentEncode_append,
    percentEncode_cons_of_safe (by decide), hsegment]

namespace IsNormal

variable {u m : Uri} (h : u.IsNormal)

include h

theorem eq_of_withPath {path : List Char} (hpath : IsRooted path) (hm : u.withPath path = .ok m) :
    m = { u with path := String.ofList (percentEncode isPathSafe (normalizePath path)) } := by
  rw [withPath, ofCheckedParts] at hm
  split at hm
  · cases hm
  · rw [h.ofParts_of_path hpath] at hm
    exact (Except.ok.inj hm).symm

theorem with_path {path : List Char} (hpath : IsNormalPath path)
    (hsafe : ∀ c ∈ path, isPathSafe c = true) :
    ({ u with path := String.ofList path } : Uri).IsNormal :=
  { h with
    path := by rwa [String.toList_ofList]
    path_safe := by rwa [String.toList_ofList] }

/-- The address of the metadata is in normal form, differs in its path only, and ends with the
segment of the metadata. -/
theorem of_metadata (hm : metadata u = .ok m) :
    m.IsNormal ∧ m = { u with path := m.path } ∧
      metadataSegment <:+ trimSlashes m.decodedPath := by
  have hroot := isRooted_trimSlashes_decodedPath h.path.rooted
  have hrooted := hroot.append_slash metadataSegment
  rw [metadata] at hm
  split at hm
  · next hsuffix =>
    obtain rfl := Except.ok.inj hm
    exact ⟨h, rfl, List.isSuffixOf_iff_suffix.1 hsuffix⟩
  · have hnormal := (isNormalPath_normalizePath hrooted).percentEncode
    obtain rfl := h.eq_of_withPath hrooted hm
    refine ⟨h.with_path hnormal ?_, rfl, ?_⟩
    · exact fun c => isSafe_of_mem_percentEncode keepsCodes_isPathSafe
    · exact metadataSegment_suffix_of_path
        (String.toList_ofList.trans (percentEncode_normalizePath_append hroot))

end IsNormal

/-- The metadata of an address that names the metadata already is at that address. -/
theorem metadata_eq_self {u : Uri} (h : metadataSegment <:+ trimSlashes u.decodedPath) :
    metadata u = .ok u := by
  rw [metadata, List.isSuffixOf_iff_suffix.2 h, if_pos rfl]

/-! ## Texts -/

theorem isNormal_of_parse {service : String} {u : Uri}
    (hstart : "http://".toList <+: service.toList ∨ "https://".toList <+: service.toList)
    (hservice : parse service = .ok u) (hne : u.host ≠ "")
    (hname : ∀ c ∈ u.host.toList, isNameChar c = true) : u.IsNormal := by
  have hparts : ((Parts.ofText service.toList).scheme = "http".toList ∨
      (Parts.ofText service.toList).scheme = "https".toList) ∧
        IsRooted (Parts.ofText service.toList).path := by
    rcases hstart with ⟨rest, hrest⟩ | ⟨rest, hrest⟩
    · rw [← hrest]
      exact (Parts.ofText_append Parts.isScheme_http rest).imp_left .inl
    · rw [← hrest]
      exact (Parts.ofText_append Parts.isScheme_https rest).imp_left .inr
  rw [parse, ofList] at hservice
  split at hservice
  · cases hservice
  split at hservice
  · cases hservice
  exact isNormal_of_ofParts hservice hparts.1 hparts.2 (by simpa using hne) hname

theorem exists_of_metadataText {service text : String} {u : Uri} (hservice : parse service = .ok u)
    (h : metadataText service = .ok text) : ∃ m, metadata u = .ok m ∧ m.toText = text := by
  rw [metadataText, hservice] at h
  dsimp only at h
  cases hm : metadata u with
  | error e =>
      rw [hm] at h
      cases h
  | ok m =>
      rw [hm] at h
      exact ⟨m, rfl, Except.ok.inj h⟩

/-- The metadata of a service whose path does not name it yet is under one more segment. -/
theorem metadataText_of_withPath {service : String} {u v : Uri} {path : List Char}
    (hservice : parse service = .ok u) (hpath : trimSlashes u.decodedPath = path)
    (hsuffix : metadataSegment.isSuffixOf path = false)
    (hwith : u.withPath (path ++ '/' :: metadataSegment) = .ok v) :
    metadataText service = .ok v.toText := by
  have hmetadata : u.metadata = .ok v := by
    rw [metadata, hpath, hsuffix]
    exact hwith
  rw [metadataText, hservice]
  simp only [hmetadata, Except.map]

/-- Asking for the metadata of a service leaves all components of its address but the path as they
are. The address of the metadata is read back from its text, its path ends with the segment of the
metadata, and asking for the metadata there yields the same text again. Reading refuses texts of
more than 65536 characters; the components of a longer text are told by `ofParts` alone. -/
theorem metadataText_metadataText {service text : String} {u : Uri}
    (hstart : "http://".toList <+: service.toList ∨ "https://".toList <+: service.toList)
    (hservice : parse service = .ok u) (hne : u.host ≠ "")
    (hname : ∀ c ∈ u.host.toList, isNameChar c = true) (htext : metadataText service = .ok text) :
    ∃ m, ofParts (.ofText text.toList) = .ok m ∧
      m.scheme = u.scheme ∧ m.userinfo = u.userinfo ∧ m.host = u.host ∧ m.port? = u.port? ∧
      m.query? = u.query? ∧ m.fragment? = u.fragment? ∧
      metadataSegment <:+ trimSlashes m.decodedPath ∧
      (text.length ≤ 65536 → parse text = .ok m ∧ metadataText text = .ok text) := by
  have hnormal := isNormal_of_parse hstart hservice hne hname
  obtain ⟨m, hm, rfl⟩ := exists_of_metadataText hservice htext
  obtain ⟨hmnormal, hpath, hsuffix⟩ := hnormal.of_metadata hm
  refine ⟨m, ?_, ?_⟩
  · rw [hmnormal.ofText_toText, hmnormal.ofParts_parts]
  · refine ⟨?_, ?_, ?_, ?_, ?_, ?_, hsuffix, fun hlength => ?_⟩
    case refine_7 =>
      have hread := hmnormal.parse_toText hlength
      refine ⟨hread, ?_⟩
      rw [metadataText, hread]
      exact congrArg (Except.map toText) (metadata_eq_self hsuffix)
    all_goals rw [hpath]

/-- A service whose address is not in normal form, with percent signs that begin no code, dot
segments, an empty query and characters outside ASCII. -/
def untidyService : String := "https://me:a b@H_1:090/x/../%41%/svc é//?#top"

def untidyMetadata : String := "https://me:a%20b@h_1:90/A%/svc%20%C3%A9/$metadata?#top"

theorem metadataText_metadataText_untidyService :
    "https://".toList <+: untidyService.toList ∧
      ∃ u m, parse untidyService = .ok u ∧ u.host = "h_1" ∧
        (∀ c ∈ u.host.toList, isNameChar c = true) ∧
        metadataText untidyService = .ok untidyMetadata ∧ untidyMetadata.length ≤ 65536 ∧
        parse untidyMetadata = .ok m ∧
        m.scheme = u.scheme ∧ m.userinfo = u.userinfo ∧ m.host = u.host ∧ m.port? = u.port? ∧
        m.query? = u.query? ∧ m.fragment? = u.fragment? ∧
        metadataSegment <:+ trimSlashes m.decodedPath ∧
        metadataText untidyMetadata = .ok untidyMetadata := by
  let u : Uri :=
    ⟨"https", "me:a%20b", "h_1", some 90, "/%41%/svc%20%C3%A9//", some "", some "top"⟩
  let m : Uri :=
    ⟨"https", "me:a%20b", "h_1", some 90, "/A%/svc%20%C3%A9/$metadata", some "", some "top"⟩
  have hstart : "https://".toList <+: untidyService.toList :=
    ⟨"me:a b@H_1:090/x/../%41%/svc é//?#top".toList, by decide⟩
  have hservice : parse untidyService = .ok u := by cbv
  have hname : ∀ c ∈ u.host.toList, isNameChar c = true := List.all_eq_true.1 (by decide)
  have hdecoded : u.decodedPath = "/A%/svc é//".toList := by
    change percentDecode "/%41%/svc%20%C3%A9//".toList = _
    cbv
  have hpath : trimSlashes u.decodedPath = "/A%/svc é".toList := by
    rw [hdecoded]
    cbv
  have hwith : u.withPath ("/A%/svc é".toList ++ '/' :: metadataSegment) = .ok m := by
    change u.withPath "/A%/svc é/$metadata".toList = _
    cbv
  have htext : m.toText = untidyMetadata := by cbv
  have hlength : untidyMetadata.length ≤ 65536 := by decide
  have hfirst : metadataText untidyService = .ok untidyMetadata := by
    rw [← htext]
    exact metadataText_of_withPath hservice hpath (by decide) hwith
  obtain ⟨v, -, hscheme, huser, hhost, hport, hquery, hfragment, hsuffix, hagain⟩ :=
    metadataText_metadataText (.inr hstart) hservice (by decide) hname hfirst
  obtain ⟨hread, hsecond⟩ := hagain hlength
  exact ⟨hstart, u, v, hservice, rfl, hname, hfirst, hlength, hread, hscheme, huser, hhost, hport,
    hquery, hfragment, hsuffix, hsecond⟩

end ServiceDoc.Uri

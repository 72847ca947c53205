import Mathlib
import ServiceDoc.Proofs.Uri.Steps
/-!
# Addresses of services that are extended

Asking for the metadata of a service extends the path of its address by one step. The path is read
for percent codes before, so not every address can be extended, and an extended one need not lead
along the same steps (`steps_metadataText`). It does where the steps to the root of the service are
plain: a percent code that stands for a slash, a question mark, a number sign, a control character,
a percent sign before two hexadecimal digits, or the dots of a dot segment is lost.
-/

namespace ServiceDoc.Uri

/-! ## Components that fit -/

/-- With that path, no component of an address is too long. -/
structure FitsWith (u : Uri) (path : List Char) : Prop where
  authority : u.authority.length ≤ maxLength
  path : path.length ≤ maxLength
  query : ∀ q ∈ u.query?, q.toList.length ≤ maxLength
  fragment : ∀ f ∈ u.fragment?, f.toList.length ≤ maxLength

theorem componentError?_eq_none_iff {component : String} {excluded cs : List Char}
    (h : cs.length ≤ maxLength) :
    componentError? component excluded cs = none ↔
      ∀ c ∈ cs, c ∉ excluded ∧ isControl c = false := by
  rw [componentError?, if_neg (by omega)]
  simp only [forall_and]
  rw [← firstControl?_eq_none_iff cs 0]
  cases firstControl? 0 cs with
  | some fault => simp
  | none => simp

/-- A character that may stand in a path given without percent codes. -/
def IsPathChar (c : Char) : Prop := c ≠ '?' ∧ c ≠ '#' ∧ isControl c = false

instance : DecidablePred IsPathChar := fun c =>
  inferInstanceAs (Decidable (c ≠ '?' ∧ c ≠ '#' ∧ isControl c = false))

/-- With another path, an address that has been read has no component that may not stand where it
does, if that path may stand there. -/
theorem IsRead.error?_eq_none_iff {u : Uri} (h : u.IsRead) {path : List Char}
    (hfits : u.FitsWith path) :
    Parts.error? { u.parts with path := path } = none ↔ ∀ c ∈ path, IsPathChar c := by
  have hscheme : componentError? "scheme" [] u.scheme.toList = none := by
    rcases h.scheme with hs | hs <;> rw [hs] <;> decide
  have hauthority : componentError? "authority" ['/', '?', '#'] u.authority = none := by
    rw [componentError?_eq_none_iff hfits.authority]
    intro c hc
    obtain ⟨hslash, hquery, hfragment, hcontrol⟩ := h.isAuthorityChar_of_mem_authority hc
    simp [hslash, hquery, hfragment, hcontrol]
  have hquery : (u.query?.map String.toList).bind (componentError? "query" ['#']) = none := by
    cases hq : u.query? with
    | none => rfl
    | some q =>
        refine (componentError?_eq_none_iff (hfits.query q hq)).2 fun c hc => ?_
        have hsafe := h.query_safe q hq c hc
        refine ⟨?_, isControl_of_isGraphicBut hsafe⟩
        rw [List.mem_singleton]
        rintro rfl
        exact absurd hsafe (by decide)
  have hfragment : (u.fragment?.map String.toList).bind (componentError? "fragment" []) = none := by
    cases hf : u.fragment? with
    | none => rfl
    | some f =>
        refine (componentError?_eq_none_iff (hfits.fragment f hf)).2
          fun c hc => ⟨List.not_mem_nil, ?_⟩
        exact isControl_of_isGraphicBut (h.fragment_safe f hf c hc)
  have hpath : componentError? "path" ['?', '#'] path = none ↔ ∀ c ∈ path, IsPathChar c := by
    rw [componentError?_eq_none_iff hfits.path]
    simp [IsPathChar, and_assoc]
  rw [Parts.error?]
  dsimp only [parts]
  rw [hscheme, hauthority, hquery, hfragment, ← hpath]
  cases componentError? "path" ['?', '#'] path <;> simp

section WithPath

variable {u : Uri} (h : u.IsRead) {path : List Char} (hpath : IsRooted path)
  (hfits : u.FitsWith path)

include h hpath hfits

theorem IsRead.withPath_eq :
    (∀ c ∈ path, IsPathChar c) → u.withPath path =
      (readHost (writtenHost u.host.toList)).map fun host =>
        { u with
          host := String.ofList host
          path := String.ofList (percentEncode isPathSafe (normalizePath path)) } := by
  intro hchar
  rw [withPath, ofCheckedParts, (h.error?_eq_none_iff hfits).2 hchar]
  exact h.ofParts_of_path hpath

/-- The path of an address can be replaced if the host can be read again, and the new path may stand
there. -/
theorem IsRead.exists_withPath_iff :
    (∃ m, u.withPath path = .ok m) ↔ IsLegible u.host.toList ∧ ∀ c ∈ path, IsPathChar c := by
  by_cases hchar : ∀ c ∈ path, IsPathChar c
  · rw [h.withPath_eq hpath hfits hchar, ← exists_readHost_writtenHost_iff h.host h.host_ne,
      and_iff_left hchar]
    cases readHost (writtenHost u.host.toList) <;> simp [Except.map]
  · refine iff_of_false ?_ fun hboth => hchar hboth.2
    rintro ⟨m, hm⟩
    rw [withPath, ofCheckedParts] at hm
    split at hm
    · cases hm
    · next hnone => exact hchar ((h.error?_eq_none_iff hfits).1 hnone)

end WithPath

/-- An address with another path has been read as well. -/
theorem IsRead.of_withPath {u m : Uri} (h : u.IsRead) {path : List Char} (hpath : IsRooted path)
    (hm : u.withPath path = .ok m) :
    m.IsRead ∧ m.path = String.ofList (percentEncode isPathSafe (normalizePath path)) := by
  have hparts : ofParts { u.parts with path := path } = .ok m := by
    rw [withPath, ofCheckedParts] at hm
    split at hm
    · cases hm
    · exact hm
  have hhost := isReadHost_of_ofParts hparts fun c => h.isAuthorityChar_of_mem_authority
  have hscheme : u.scheme.toList = "http".toList ∨ u.scheme.toList = "https".toList :=
    h.scheme.imp (congrArg String.toList) (congrArg String.toList)
  obtain ⟨host, hread, rfl⟩ : ∃ host, readHost (writtenHost u.host.toList) = .ok host ∧
      { u with
        host := String.ofList host
        path := String.ofList (percentEncode isPathSafe (normalizePath path)) } = m := by
    rw [h.ofParts_of_path hpath] at hparts
    cases hread : readHost (writtenHost u.host.toList) with
    | error e =>
        rw [hread] at hparts
        cases hparts
    | ok host =>
        rw [hread] at hparts
        exact ⟨host, rfl, Except.ok.inj hparts⟩
  refine ⟨isRead_of_ofParts hparts hscheme hpath ?_ hhost, rfl⟩
  rw [String.toList_ofList]
  exact ne_nil_of_readHost_writtenHost h.host h.host_ne hread

/-! ## Services -/

theorem isRead_of_parse {service : String} {u : Uri}
    (hstart : "http://".toList <+: service.toList ∨ "https://".toList <+: service.toList)
    (hservice : parse service = .ok u) (hne : u.host ≠ "") : u.IsRead := by
  rw [parse, ofList] at hservice
  split at hservice
  · cases hservice
  split at hservice
  · cases hservice
  next hnone =>
  have hcontrol := (firstControl?_eq_none_iff service.toList 0).1 hnone
  have hread {scheme rest : List Char} (hscheme : Parts.IsScheme scheme)
      (hweb : scheme = "http".toList ∨ scheme = "https".toList)
      (htext : service.toList = scheme ++ ':' :: '/' :: '/' :: rest) : u.IsRead := by
    obtain ⟨hself, hrooted⟩ := Parts.ofText_append hscheme rest
    rw [htext] at hservice hcontrol
    refine isRead_of_ofParts hservice (by rwa [hself]) hrooted (by simpa using hne)
      (isReadHost_of_ofParts hservice fun c hc => ?_)
    obtain ⟨hmem, hslash, hquery, hfragment⟩ := Parts.of_mem_authority_ofText hscheme hc
    exact ⟨hslash, hquery, hfragment, hcontrol c (by simp [hmem])⟩
  rcases hstart with ⟨rest, hrest⟩ | ⟨rest, hrest⟩
  · exact hread Parts.isScheme_http (.inl rfl) hrest.symm
  · exact hread Parts.isScheme_https (.inr rfl) hrest.symm

/-- The path at which the metadata of a service is asked for, given without percent codes. -/
def metadataPath (u : Uri) : List Char := trimSlashes u.decodedPath ++ '/' :: metadataSegment

theorem metadata_eq_withPath {u : Uri} (h : ¬ metadataSegment <:+ trimSlashes u.decodedPath) :
    metadata u = u.withPath (metadataPath u) := by
  rw [metadata, if_neg (by simpa using h)]
  rfl

theorem metadataText_eq_ok_iff {service text : String} {u : Uri} (hservice : parse service = .ok u)
    (h : ¬ metadataSegment <:+ trimSlashes u.decodedPath) :
    metadataText service = .ok text ↔
      ∃ m, u.withPath (metadataPath u) = .ok m ∧ m.toText = text := by
  rw [metadataText, hservice]
  dsimp only
  rw [metadata_eq_withPath h]
  cases u.withPath (metadataPath u) <;> simp [Except.map]

theorem isRooted_metadataPath {u : Uri} (h : IsRooted u.path.toList) : IsRooted (metadataPath u) :=
  (isRooted_trimSlashes_decodedPath h).append_slash metadataSegment

theorem isPathChar_slash : IsPathChar '/' := by decide

theorem mem_trimSlashes_or_eq {path : List Char} {c : Char} (hc : c ∈ path) :
    c ∈ trimSlashes path ∨ c = '/' := by
  rw [← List.mem_reverse, ← List.takeWhile_append_dropWhile (p := (· = '/')) (l := path.reverse),
    List.mem_append] at hc
  rcases hc with hc | hc
  · exact .inr (by simpa using List.mem_takeWhile_imp hc)
  · exact .inl (List.mem_reverse.2 hc)

/-- What is put behind the path of a service, and the slashes before it, may stand in any path. -/
theorem forall_mem_metadataPath_iff (u : Uri) :
    (∀ c ∈ metadataPath u, IsPathChar c) ↔ ∀ c ∈ u.decodedPath, IsPathChar c := by
  have hend : ∀ c ∈ '/' :: metadataSegment, IsPathChar c :=
    List.all_iff_forall_prop.1 (by decide)
  rw [metadataPath, List.forall_mem_append, and_iff_left hend]
  constructor
  · intro htrimmed c hc
    rcases mem_trimSlashes_or_eq hc with hmem | rfl
    · exact htrimmed c hmem
    · exact isPathChar_slash
  · exact fun hall c hc => hall c ((trimSlashes_isPrefix u.decodedPath).subset hc)

/-- Behind any path, the segment of the metadata is the last step; the steps before it are the
segments of the path without dot segments. -/
theorem steps_percentEncode_normalizePath {path : List Char} (h : IsRooted path) :
    steps (percentEncode isPathSafe (normalizePath (path ++ '/' :: metadataSegment))) =
      ((removeDots [] (segments path)).map percentDecode).tail ++ [metadataSegment] := by
  have hdecode (ss : List (List Char)) :
      (ss.map (percentEncode isPathSafe)).map percentDecode = ss.map percentDecode := by
    rw [List.map_map]
    exact List.map_congr_left fun s _ => percentDecode_percentEncode sparesCodes_isPathSafe s
  have hsegment : segments metadataSegment = [metadataSegment] :=
    List.splitOn_eq_singleton (by decide)
  obtain ⟨ss, hss⟩ := List.head?_eq_some_iff.1 (head?_removeDots_segments h)
  rw [percentEncode_normalizePath_append h, steps, segments_append_slash, hsegment,
    segments_percentEncode, segments_normalizePath h, hss, List.map_cons, List.map_cons,
    List.cons_append, List.tail_cons, List.tail_cons, List.map_append, hdecode, List.map_singleton,
    percentDecode_metadataSegment]

section Extended

variable {service : String} {u : Uri} (hread : u.IsRead) (hservice : parse service = .ok u)
  (hnew : ¬ metadataSegment <:+ trimSlashes u.decodedPath)

include hread hservice hnew

/-- The address of the metadata can be told if the host is legible, and no percent code in the path
stands for a character that may not stand in a path. -/
theorem exists_metadataText_iff (hfits : u.FitsWith (metadataPath u)) :
    (∃ text, metadataText service = .ok text) ↔
      IsLegible u.host.toList ∧ ∀ c ∈ u.decodedPath, IsPathChar c := by
  rw [← forall_mem_metadataPath_iff,
    ← hread.exists_withPath_iff (isRooted_metadataPath hread.rooted) hfits]
  simp [metadataText_eq_ok_iff hservice hnew]

/-- It leads along the segments of the path that has been read for percent codes as a whole. -/
theorem steps_of_metadataText {text : String} (htext : metadataText service = .ok text) :
    steps (Parts.ofText text.toList).path =
      ((removeDots [] (segments (trimSlashes u.decodedPath))).map percentDecode).tail ++
        [metadataSegment] := by
  obtain ⟨m, hm, rfl⟩ := (metadataText_eq_ok_iff hservice hnew).1 htext
  obtain ⟨hmread, hpath⟩ := hread.of_withPath (isRooted_metadataPath hread.rooted) hm
  rw [hmread.ofText_toText,
    ← steps_percentEncode_normalizePath (isRooted_trimSlashes_decodedPath hread.rooted)]
  change steps m.path.toList = _
  rw [hpath, String.toList_ofList]
  rfl

end Extended

/-- The segments of that path are the steps to the root of the service if these are plain. -/
theorem tail_removeDots_trimSlashes_iff {u : Uri} (h : IsRooted u.path.toList) :
    ((removeDots [] (segments (trimSlashes u.decodedPath))).map percentDecode).tail =
      serviceSteps u ↔ ∀ s ∈ serviceSteps u, IsPlainStep s := by
  rw [← removeDots_trimSlashes_iff h]
  obtain ⟨ss, hss⟩ :=
    List.head?_eq_some_iff.1 (head?_removeDots_segments (isRooted_trimSlashes_decodedPath h))
  rw [hss, List.map_cons, percentDecode_nil, List.tail_cons, List.cons.injEq, and_iff_right rfl]

/-- Asking for the metadata of a service succeeds if its host is legible and no percent code in its
path stands for a question mark, a number sign or a control character. The address then leads along
the segments of the path read for percent codes as a whole, without dot segments. These are the
steps to the root of the service exactly if all of them are plain. -/
theorem steps_metadataText {service : String} {u : Uri}
    (hstart : "http://".toList <+: service.toList ∨ "https://".toList <+: service.toList)
    (hservice : parse service = .ok u) (hne : u.host ≠ "")
    (hnew : ¬ metadataSegment <:+ trimSlashes u.decodedPath) (hfits : u.FitsWith (metadataPath u)) :
    ((∃ text, metadataText service = .ok text) ↔
        IsLegible u.host.toList ∧ ∀ c ∈ u.decodedPath, IsPathChar c) ∧
      (∀ text, metadataText service = .ok text →
        steps (Parts.ofText text.toList).path =
          ((removeDots [] (segments (trimSlashes u.decodedPath))).map percentDecode).tail ++
            [metadataSegment]) ∧
      ((∃ text, metadataText service = .ok text ∧
          steps (Parts.ofText text.toList).path = serviceSteps u ++ [metadataSegment]) ↔
        IsLegible u.host.toList ∧
          ∀ s ∈ serviceSteps u, IsPlainStep s ∧ ∀ c ∈ s, IsPathChar c) := by
  have hread := isRead_of_parse hstart hservice hne
  have hsuccess := exists_metadataText_iff hread hservice hnew hfits
  have hsteps (text : String) (htext : metadataText service = .ok text) :=
    steps_of_metadataText hread hservice hnew htext
  have hfound := tail_removeDots_trimSlashes_iff hread.rooted
  have hchars := forall_mem_decodedPath_iff hread.rooted isPathChar_slash
  refine ⟨hsuccess, hsteps, ?_, ?_⟩
  · rintro ⟨text, htext, hsame⟩
    obtain ⟨hlegible, hchar⟩ := hsuccess.1 ⟨text, htext⟩
    rw [hsteps text htext, List.append_cancel_right_eq] at hsame
    exact ⟨hlegible, fun s hs => ⟨hfound.1 hsame s hs, hchars.1 hchar s hs⟩⟩
  · rintro ⟨hlegible, hstep⟩
    have hchar := hchars.2 fun s hs => (hstep s hs).2
    obtain ⟨text, htext⟩ := hsuccess.2 ⟨hlegible, hchar⟩
    refine ⟨text, htext, ?_⟩
    rw [hsteps text htext, hfound.2 fun s hs => (hstep s hs).1]

/-- A service whose path has one step, with a code for a slash in it. -/
def codedService : String := "https://svc/a%2Fb"

theorem steps_metadataText_codedService :
    "https://".toList <+: codedService.toList ∧
      ∃ u, parse codedService = .ok u ∧ u.host = "svc" ∧
        ¬ metadataSegment <:+ trimSlashes u.decodedPath ∧ u.FitsWith (metadataPath u) ∧
        serviceSteps u = ["a/b".toList] ∧
        metadataText codedService = .ok "https://svc/a/b/$metadata" ∧
        steps (Parts.ofText "https://svc/a/b/$metadata".toList).path ≠
          serviceSteps u ++ [metadataSegment] := by
  let u : Uri := ⟨"https", "", "svc", none, "/a%2Fb", none, none⟩
  let m : Uri := ⟨"https", "", "svc", none, "/a/b/$metadata", none, none⟩
  have hservice : parse codedService = .ok u := by cbv
  have hdecoded : u.decodedPath = "/a/b".toList := by
    change percentDecode "/a%2Fb".toList = _
    cbv
  have hpath : trimSlashes u.decodedPath = "/a/b".toList := by
    rw [hdecoded]
    cbv
  have hnew : ¬ metadataSegment <:+ trimSlashes u.decodedPath := by
    rw [hpath]
    decide
  have hfits : u.FitsWith (metadataPath u) := by
    refine ⟨by decide, ?_, by simp [u], by simp [u]⟩
    rw [metadataPath, hpath]
    decide
  have hsteps : serviceSteps u = ["a/b".toList] := by
    change (steps "/a%2Fb".toList).rdropWhile List.isEmpty = _
    cbv
  have hwith : u.withPath ("/a/b".toList ++ '/' :: metadataSegment) = .ok m := by cbv
  have htext : m.toText = "https://svc/a/b/$metadata" := by cbv
  have hmetadata := metadataText_of_withPath hservice hpath (by decide) hwith
  rw [htext] at hmetadata
  have hfound : steps (Parts.ofText "https://svc/a/b/$metadata".toList).path =
      ["a".toList, "b".toList, metadataSegment] := by cbv
  refine ⟨⟨"svc/a%2Fb".toList, by decide⟩, u, hservice, rfl, hnew, hfits, hsteps, hmetadata, ?_⟩
  rw [hfound, hsteps]
  decide

/-- A service with a space, a percent sign and letters outside ASCII in its path. -/
def accentedService : String := "https://svc/a b/50%25/ü%C3%A9//"

theorem steps_metadataText_accentedService :
    "https://".toList <+: accentedService.toList ∧
      ∃ u, parse accentedService = .ok u ∧ u.host = "svc" ∧
        ¬ metadataSegment <:+ trimSlashes u.decodedPath ∧ u.FitsWith (metadataPath u) ∧
        serviceSteps u = ["a b".toList, "50%".toList, "üé".toList] ∧
        ∃ text, metadataText accentedService = .ok text ∧
          steps (Parts.ofText text.toList).path = serviceSteps u ++ [metadataSegment] := by
  let u : Uri := ⟨"https", "", "svc", none, "/a%20b/50%25/%C3%BC%C3%A9//", none, none⟩
  have hstart : "https://".toList <+: accentedService.toList :=
    ⟨"svc/a b/50%25/ü%C3%A9//".toList, by decide⟩
  have hservice : parse accentedService = .ok u := by cbv
  have hdecoded : u.decodedPath = "/a b/50%/üé//".toList := by
    change percentDecode "/a%20b/50%25/%C3%BC%C3%A9//".toList = _
    cbv
  have hpath : trimSlashes u.decodedPath = "/a b/50%/üé".toList := by
    rw [hdecoded]
    cbv
  have hnew : ¬ metadataSegment <:+ trimSlashes u.decodedPath := by
    rw [hpath]
    decide
  have hfits : u.FitsWith (metadataPath u) := by
    refine ⟨by decide, ?_, by simp [u], by simp [u]⟩
    rw [metadataPath, hpath]
    decide
  have hsteps : serviceSteps u = ["a b".toList, "50%".toList, "üé".toList] := by
    change (steps "/a%20b/50%25/%C3%BC%C3%A9//".toList).rdropWhile List.isEmpty = _
    cbv
  have hplain : ∀ s ∈ serviceSteps u, IsPlainStep s ∧ ∀ c ∈ s, IsPathChar c := by
    rw [hsteps]
    have hspace : IsPlainStep "a b".toList := ⟨by decide, by decide, by cbv⟩
    have hpercent : IsPlainStep "50%".toList := ⟨by decide, by decide, by cbv⟩
    have haccent : IsPlainStep "üé".toList := ⟨by decide, by decide, by cbv⟩
    have hchar : ∀ s ∈ ["a b".toList, "50%".toList, "üé".toList], ∀ c ∈ s, IsPathChar c := by
      simp only [← List.all_iff_forall_prop]
      decide
    have hstep : ∀ s ∈ ["a b".toList, "50%".toList, "üé".toList], IsPlainStep s := by
      simp only [List.forall_mem_cons]
      exact ⟨hspace, hpercent, haccent, fun _ => by simp⟩
    exact fun s hs => ⟨hstep s hs, hchar s hs⟩
  have hlegible : IsLegible u.host.toList := fun _ hlooks => absurd hlooks (by decide)
  obtain ⟨text, htext, hsame⟩ :=
    (steps_metadataText (.inr hstart) hservice (by decide) hnew hfits).2.2.2 ⟨hlegible, hplain⟩
  exact ⟨hstart, u, hservice, rfl, hnew, hfits, hsteps, text, htext, hsame⟩

end ServiceDoc.Uri

import Mathlib
import ServiceDoc.Proofs.CommandLine.Course
import ServiceDoc.Proofs.FileTree.EmbeddedNul
import ServiceDoc.Proofs.Http.Astray
/-!
# Metadata that cannot be loaded

A run reports metadata that it cannot load and exits with status 1, but for three kinds of failure:
a source that begins like an address and is none that can be asked, a reply that leads its request
astray, and a path with an embedded NUL. Such a failure is foreseen nowhere, and the run ends with
it (`ending_of_unloadable`).
-/

namespace ServiceDoc

open Http (Network GoesAstray)

namespace Source

/-- The address that is asked first for the metadata of a service. -/
def firstAddress (service : String) : Except UriError Uri :=
  (Uri.metadataText service).bind fun address => (Uri.parse address).bind Http.requestAddress

/-- How loading from a source derails. -/
inductive Derails (network : Network) (follows : Bool) (source : String) : Prop where
  /-- The source begins like an address, but there is none to ask for its metadata. -/
  | unaskable (hsource : isAddress source = true) (hnone : ∀ u, firstAddress source ≠ .ok u)
  /-- A reply leads one of the requests astray. -/
  | astray (hsource : isAddress source = true)
    (hstray : GoesAstray network 0 (loadService network follows source).sent)
  /-- The source is a path that no system call takes. -/
  | embeddedNul (hsource : isAddress source = false) (hnul : '\x00' ∈ source.toList)

/-! ## Services -/

section Service

variable (network : Network) (follows : Bool) {service : String}

theorem loadService_of_firstAddress_eq_error {e : UriError} (h : firstAddress service = .error e) :
    (loadService network follows service).sent = [] ∧
      (loadService network follows service).outcome = .error (.address e) := by
  rw [firstAddress] at h
  rw [loadService]
  cases htext : Uri.metadataText service with
  | error x =>
      rw [htext] at h
      obtain rfl := Except.error.inj h
      exact ⟨rfl, rfl⟩
  | ok address =>
      rw [htext, Except.bind] at h
      dsimp only
      rw [h]
      exact ⟨rfl, rfl⟩

theorem loadService_of_firstAddress {u : Uri} (h : firstAddress service = .ok u) :
    (loadService network follows service).sent =
        (Http.exchange network follows Http.maxRedirects 0 (metadataRequest u)).sent ∧
      (loadService network follows service).outcome =
        body (Http.exchange network follows Http.maxRedirects 0 (metadataRequest u)) := by
  rw [firstAddress] at h
  rw [loadService]
  cases htext : Uri.metadataText service with
  | error x =>
      rw [htext] at h
      cases h
  | ok address =>
      rw [htext, Except.bind] at h
      dsimp only
      rw [h]
      exact ⟨rfl, rfl⟩

end Service

end Source

namespace CommandLine

open Source (Derails LoadError firstAddress isAddress)

theorem reportsLoad_exchange_eq_false_iff (e : Http.ExchangeError) :
    reportsLoad (.exchange e) = false ↔ e.IsStray := by
  cases e with
  | transport kind message => exact iff_of_false (by simp [reportsLoad]) nofun
  | tooManyRedirects => exact iff_of_false (by simp [reportsLoad]) nofun
  | badLocation x => exact iff_of_false (by simp [reportsLoad]) nofun
  | badAddress x => exact iff_of_true rfl (.badAddress x)
  | unknownScheme address => exact iff_of_true rfl (.unknownScheme address)

/-- The body of an exchange is missing for a reason that is not reported where the exchange goes
astray. -/
theorem body_not_reported_iff (e : Http.Exchange) :
    (∃ x, Source.body e = .error x ∧ reportsLoad x = false) ↔
      ∃ x, e.outcome = .error x ∧ x.IsStray := by
  rw [Source.body]
  cases e.outcome with
  | error x => simp [reportsLoad_exchange_eq_false_iff]
  | ok result =>
      obtain ⟨address, r⟩ := result
      cases hsuccess : r.isSuccess <;> simp [hsuccess, reportsLoad]

theorem loadService_not_reported_iff (network : Network) (follows : Bool) {service : String}
    (hservice : isAddress service = true) :
    (∃ e, (Source.loadService network follows service).outcome = .error e ∧
        reportsLoad e = false) ↔
      Derails network follows service := by
  cases hfirst : firstAddress service with
  | error x =>
      obtain ⟨-, houtcome⟩ := Source.loadService_of_firstAddress_eq_error network follows hfirst
      refine iff_of_true ⟨.address x, houtcome, rfl⟩ (.unaskable hservice fun u hu => ?_)
      rw [hfirst] at hu
      cases hu
  | ok u =>
      obtain ⟨hsent, houtcome⟩ := Source.loadService_of_firstAddress network follows hfirst
      rw [houtcome, body_not_reported_iff, Http.outcome_exchange_isStray_iff, ← hsent]
      constructor
      · exact .astray hservice
      · rintro (⟨-, hnone⟩ | ⟨-, hstray⟩ | ⟨hpath, -⟩)
        · exact absurd hfirst (hnone u)
        · exact hstray
        · rw [hservice] at hpath
          cases hpath

theorem loadFile_not_reported_iff (files : FileTree) (network : Network) (follows : Bool)
    {source : String} (hsource : isAddress source = false) :
    (∃ e, (Source.loadFile files source).outcome = .error e ∧ reportsLoad e = false) ↔
      Derails network follows source := by
  have hderails : Derails network follows source ↔ '\x00' ∈ source.toList := by
    constructor
    · rintro (⟨haddress, -⟩ | ⟨haddress, -⟩ | ⟨-, hnul⟩)
      · rw [hsource] at haddress
        cases haddress
      · rw [hsource] at haddress
        cases haddress
      · exact hnul
    · exact .embeddedNul hsource
  rw [hderails, ← files.read_ofText_embeddedNul_iff, Source.loadFile]
  cases files.read (.ofText source) with
  | error f => cases f <;> simp [Except.mapError, reportsLoad]
  | ok bytes => simp [Except.mapError]

/-- Loading from a source fails for a reason that is not reported exactly where it derails. -/
theorem load_not_reported_iff (files : FileTree) (network : Network) (follows : Bool)
    (source : String) :
    (∃ e, (Source.load files network follows source).outcome = .error e ∧ reportsLoad e = false) ↔
      Derails network follows source := by
  rw [Source.load]
  cases hsource : isAddress source with
  | true => exact loadService_not_reported_iff network follows hsource
  | false => exact loadFile_not_reported_iff files network follows hsource

theorem ending_run_of_load_eq_error {arguments : List String} {environment : Environment}
    {files : FileTree} {network : Network} {settings : Settings} {e : LoadError}
    (hsettings : readSettings arguments environment = .ok settings)
    (he : (Source.load files network true (settings.source.getD "")).outcome = .error e) :
    (run arguments environment files network).ending =
      if reportsLoad e then .exit 1 else .failure (.load e) := by
  rw [run, hsettings]
  dsimp only
  rw [runSettings, he]
  exact ending_failed files _ _ (.load e)

/-- Loading from a source yields bytes, or fails for a reason that is reported, exactly where it
does not derail. A run that cannot load its source exits with status 1 then; otherwise it ends with
what went wrong. -/
theorem ending_of_unloadable (files : FileTree) (network : Network) (source : String) :
    (∀ follows, ((∃ bytes, (Source.load files network follows source).outcome = .ok bytes) ∨
        ∃ e, (Source.load files network follows source).outcome = .error e ∧
          reportsLoad e = true) ↔
      ¬ Derails network follows source) ∧
    ∀ arguments environment settings e,
      readSettings arguments environment = .ok settings → settings.source.getD "" = source →
      (Source.load files network true source).outcome = .error e →
      (¬ Derails network true source →
        (run arguments environment files network).ending = .exit 1) ∧
      (Derails network true source →
        (run arguments environment files network).ending = .failure (.load e)) := by
  refine ⟨fun follows => ?_, ?_⟩
  · rw [← load_not_reported_iff files]
    cases (Source.load files network follows source).outcome <;> simp
  · rintro arguments environment settings e hsettings rfl he
    rw [ending_run_of_load_eq_error hsettings he, ← load_not_reported_iff files]
    cases hreported : reportsLoad e <;> simp [he, hreported]

/-- A file that is not there is reported. -/
theorem ending_of_unloadable_missingFile :
    (∃ e, (Source.load ⟨["home"], []⟩ [] true "m.xml").outcome = .error e ∧
        reportsLoad e = true) ∧
      ¬ Derails [] true "m.xml" ∧
      (run ["m.xml"] {} ⟨["home"], []⟩ []).ending = .exit 1 := by
  have he : (Source.load ⟨["home"], []⟩ [] true "m.xml").outcome =
      .error (.file "m.xml" ⟨"", ["m.xml"]⟩ .missing) := by
    have hsource : isAddress "m.xml" = false := by cbv
    have hpath : Path.ofText "m.xml" = ⟨"", ["m.xml"]⟩ := by cbv
    have hread : FileTree.read ⟨["home"], []⟩ ⟨"", ["m.xml"]⟩ = .error .missing := by cbv
    rw [Source.load, hsource, if_neg Bool.false_ne_true, Source.loadFile, hpath, hread]
    rfl
  obtain ⟨hiff, hending⟩ := ending_of_unloadable ⟨["home"], []⟩ [] "m.xml"
  have hkept : ¬ Derails [] true "m.xml" := (hiff true).1 (.inr ⟨_, he, rfl⟩)
  exact ⟨⟨_, he, rfl⟩, hkept,
    (hending _ _ _ _ readSettings_metadataHome rfl he).1 hkept⟩

/-- A single argument that is no switch is the source. -/
theorem readSettings_singleton {text : String} {c : Char} {r : List Char}
    (htext : text.toList = c :: r) (hc : c ≠ '-') :
    readSettings [text] {} = .ok { source := some text, host := none, basePath := none } := by
  have hseparator : text ≠ "--" := by
    rintro rfl
    exact hc (List.cons.inj htext).1.symm
  have hne : text ≠ "" := by
    rintro rfl
    cases htext
  have hargument : Argument.ofText text = .ok (.operand text) := by
    rw [Argument.ofText, htext]
    split
    · next heq => exact absurd (List.cons.inj heq).1 hc
    · rfl
  rw [readSettings, Argument.ofTexts, if_neg hseparator, hargument]
  simp [Argument.ofTexts, readArguments, Progress.addOperand, Environment.settings, hne]

/-- A host that is almost a numeric address is not reported; the run ends with it. -/
theorem ending_of_unloadable_octet :
    (Source.load ⟨["home"], []⟩ [] true "http://10.0.0.256/odata").outcome =
        .error (.address (.invalidIpv4 "10.0.0.256")) ∧
      reportsLoad (.address (.invalidIpv4 "10.0.0.256")) = false ∧
      (run ["http://10.0.0.256/odata"] {} ⟨["home"], []⟩ []).ending =
        .failure (.load (.address (.invalidIpv4 "10.0.0.256"))) := by
  have hsettings : readSettings ["http://10.0.0.256/odata"] {} =
      .ok ⟨some "http://10.0.0.256/odata", none, none, "generated", true, false⟩ :=
    readSettings_singleton (r := "ttp://10.0.0.256/odata".toList) rfl (by decide)
  have he : (Source.load ⟨["home"], []⟩ [] true "http://10.0.0.256/odata").outcome =
      .error (.address (.invalidIpv4 "10.0.0.256")) := by
    have hsource : isAddress "http://10.0.0.256/odata" = true := by cbv
    have hparse : Uri.parse "http://10.0.0.256/odata" =
        .error (.invalidIpv4 "10.0.0.256") := by
      cbv
    rw [Source.load, if_pos hsource, Source.loadService, Uri.metadataText, hparse]
  exact ⟨he, rfl, ending_run_of_load_eq_error hsettings he⟩

end CommandLine

end ServiceDoc

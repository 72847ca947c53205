import Mathlib
import ServiceDoc.Proofs.CommandLine.Course
import ServiceDoc.Proofs.Xml.DeclaredEncoding
/-!
# Metadata that cannot be read

A run reports metadata that it cannot read and exits with status 1, but for one fault: the bytes
declare an encoding that cannot be used. Such a fault is not taken for one of the metadata, and the
run ends with it (`ending_of_unreadable`).
-/

namespace ServiceDoc

open Csdl (Reading isInvalid)
open Xml.Document (declaredEncoding? unusable?)

namespace Csdl

/-- Whether bytes declare an encoding that cannot be used. One that refuses to be tried out on bytes
is told of like a fault in them and does not count. -/
def DeclaresUnusable (bytes : List UInt8) : Prop :=
  ∃ name f, declaredEncoding? bytes = some name ∧ unusable? name = some f ∧
    ∀ reason, f ≠ .refused reason

theorem ofBytes_eq_error_iff (bytes : List UInt8) (e : Xml.DocumentError) :
    Reading.ofBytes bytes = .error e ↔ Xml.Document.ofBytes bytes = .error e := by
  rw [Reading.ofBytes]
  cases Xml.Document.ofBytes bytes <;> simp [Except.map]

theorem isInvalid_eq_false_iff (e : Xml.DocumentError) :
    isInvalid e = false ↔ ∃ f, e = .charset f ∧ ∀ reason, f ≠ .refused reason := by
  cases e with
  | fault cause position => simp [isInvalid]
  | charset f => cases f <;> simp [isInvalid]

/-- What goes wrong with bytes is not a fault in them exactly where they declare an encoding that
cannot be used. -/
theorem exists_not_isInvalid_iff (bytes : List UInt8) :
    (∃ e, Reading.ofBytes bytes = .error e ∧ isInvalid e = false) ↔ DeclaresUnusable bytes := by
  constructor
  · rintro ⟨e, he, hvalid⟩
    obtain ⟨f, rfl, hf⟩ := (isInvalid_eq_false_iff e).1 hvalid
    rw [ofBytes_eq_error_iff, Xml.Document.ofBytes_eq_charset_iff, Option.bind_eq_some_iff] at he
    obtain ⟨name, hname, hunusable⟩ := he
    exact ⟨name, f, hname, hunusable, hf⟩
  · rintro ⟨name, f, hname, hunusable, hf⟩
    refine ⟨.charset f, ?_, (isInvalid_eq_false_iff _).2 ⟨f, rfl, hf⟩⟩
    rw [ofBytes_eq_error_iff, Xml.Document.ofBytes_eq_charset_iff, Option.bind_eq_some_iff]
    exact ⟨name, hname, hunusable⟩

theorem not_declaresUnusable_iff (bytes : List UInt8) :
    ((∃ reading, Reading.ofBytes bytes = .ok reading) ∨
        ∃ e, Reading.ofBytes bytes = .error e ∧ isInvalid e = true) ↔
      ¬ DeclaresUnusable bytes := by
  rw [← exists_not_isInvalid_iff]
  cases Reading.ofBytes bytes <;> simp

end Csdl

namespace CommandLine

open Csdl (DeclaresUnusable)

theorem ending_run_of_ofBytes_eq_error {arguments : List String} {environment : Environment}
    {files : FileTree} {network : Http.Network} {settings : Settings} {bytes : List UInt8}
    {e : Xml.DocumentError} (hsettings : readSettings arguments environment = .ok settings)
    (hload : (Source.load files network true (settings.source.getD "")).outcome = .ok bytes)
    (he : Reading.ofBytes bytes = .error e) :
    (run arguments environment files network).ending =
      if isInvalid e then .exit 1 else .failure (.read e) := by
  rw [run, hsettings]
  dsimp only
  rw [runSettings, hload]
  dsimp only
  rw [he]
  exact ending_failed files _ _ (.read e)

/-- A document whose head names an encoding that there is not. -/
def klingonText : List Char := "<?xml version=\"1.0\" encoding=\"klingon\"?><a/>".toList

theorem klingonText_eq : klingonText = Xml.headText "klingon".toList ++ "<a/>".toList := rfl

theorem ofBytes_klingonText :
    Reading.ofBytes (Text.utf8 klingonText) = .error (.charset (.unknown "klingon")) := by
  have hcharset : Xml.Encoding.charset? (String.ofList "klingon".toList) =
      .error (.unknown "klingon") := by
    rw [String.ofList_toList]
    exact Xml.Encoding.charset?_klingon
  rw [Csdl.ofBytes_eq_error_iff, Xml.Document.ofBytes_eq_charset_iff, klingonText_eq,
    Xml.Document.declaredEncoding?_utf8_headText rfl]
  exact Xml.Document.unusable?_of_charset? Xml.Encoding.declared_klingon hcharset nofun

end CommandLine

end ServiceDoc

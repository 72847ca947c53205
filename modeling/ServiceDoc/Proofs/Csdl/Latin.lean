import Mathlib
import ServiceDoc.Proofs.Csdl.RoundTrip
import ServiceDoc.Proofs.Xml.Latin
/-!
# Metadata in ISO-8859-1

The encoding that a document declares does not change what is read of it: a text that declares
ISO-8859-1 and its bytes in that encoding lead to the same sets and the same notices, or both are
invalid (`ofText_ofBytes_of_latin`).
-/

namespace ServiceDoc.Csdl

open Xml (latinBytes IsCommonLatin headText latinName)

/-- What is wrong with a text that declares an encoding is wrong with its characters. -/
theorem isInvalid_of_ofText_headText {name cs : List Char} (h : Xml.isEncodingName name)
    {e : Xml.DocumentError} (he : Reading.ofText (String.ofList (headText name ++ cs)) = .error e) :
    isInvalid e = true := by
  rw [Reading.ofText, Xml.Document.ofText_headText h] at he
  cases hbody : Xml.Document.readBody false (Xml.symbols cs) with
  | error f =>
      rw [hbody] at he
      obtain rfl := Except.error.inj he
      rfl
  | ok root =>
      rw [hbody] at he
      cases he

/-- A text that declares ISO-8859-1 and its bytes in that encoding are both invalid, or they are
read alike. -/
theorem ofText_ofBytes_of_latin (text : String)
    (hhead : "<?xml version=\"1.0\" encoding=\"ISO-8859-1\"?>".toList <+: text.toList)
    (hchars : ∀ c ∈ text.toList, c.toNat ≤ 0xFF ∧ c.toNat ≠ 0xAA ∧ c.toNat ≠ 0xB5 ∧
      c.toNat ≠ 0xBA) :
    (∃ e f, Reading.ofText text = .error e ∧ isInvalid e = true ∧
        Reading.ofBytes (text.toList.map fun c => UInt8.ofNat c.toNat) = .error f ∧
        isInvalid f = true) ∨
      ∃ reading, Reading.ofText text = .ok reading ∧
        Reading.ofBytes (text.toList.map fun c => UInt8.ofNat c.toNat) = .ok reading := by
  obtain ⟨cs, hcs⟩ := hhead
  have hlist : text.toList = headText latinName ++ cs := hcs.symm
  have htext : text = String.ofList (headText latinName ++ cs) := by
    rw [← hlist, String.ofList_toList]
  have hcommon : ∀ c ∈ cs, IsCommonLatin c := by
    intro c hc
    refine hchars c ?_
    rw [hlist]
    exact List.mem_append_right _ hc
  have hsame : Reading.ofBytes (text.toList.map fun c => UInt8.ofNat c.toNat) =
      Reading.ofText text := by
    rw [hlist, htext, Reading.ofText, ← Xml.Document.ofBytes_latinBytes_eq_ofText hcommon]
    rfl
  rw [hsame]
  cases hread : Reading.ofText text with
  | ok reading => exact .inr ⟨reading, rfl, rfl⟩
  | error e =>
      have hinvalid : isInvalid e = true := by
        rw [htext] at hread
        exact isInvalid_of_ofText_headText rfl hread
      exact .inl ⟨e, e, rfl, hinvalid, rfl, hinvalid⟩

/-- A set whose names and properties have letters outside ASCII. -/
def cafeSets : List EntitySet :=
  let street : Property := ⟨"Stra\u00dfe", "Edm.String"⟩
  [⟨"Caf\u00e9s", "N", ⟨"Caf\u00e9", [street], [street]⟩⟩]

theorem publishable_cafeSets : Publishable cafeSets where
  names := by simp [cafeSets, IsLegalText, Xml.isLegal]
  properties := by simp [cafeSets, IsLegalText, Xml.isLegal]
  distinct := by simp [cafeSets]
  keys := by simp [cafeSets]
  types := by simp [cafeSets]

/-- The metadata of these sets behind a head that declares ISO-8859-1. -/
def cafeText : String := String.ofList (headText latinName ++ (metadata cafeSets).text)

theorem toList_cafeText : cafeText.toList = headText latinName ++ (metadata cafeSets).text :=
  String.toList_ofList

theorem ofText_ofBytes_of_latin_cafeText :
    Reading.ofText cafeText = .ok ⟨cafeSets, [.summary 1 2]⟩ ∧
      Reading.ofBytes (cafeText.toList.map fun c => UInt8.ofNat c.toNat) =
        .ok ⟨cafeSets, [.summary 1 2]⟩ := by
  have hread : Reading.ofText cafeText = .ok ⟨cafeSets, [.summary 1 2]⟩ := by
    rw [Reading.ofText, cafeText, Xml.Document.ofText_headText rfl,
      Xml.Document.readBody_text (isWritable_metadata publishable_cafeSets)]
    exact congrArg Except.ok (ofTree_metadata publishable_cafeSets)
  have hchars : ∀ c ∈ cafeText.toList, c.toNat ≤ 0xFF ∧ c.toNat ≠ 0xAA ∧ c.toNat ≠ 0xB5 ∧
      c.toNat ≠ 0xBA := by
    have hall : (headText latinName ++ (metadata cafeSets).text).all (IsCommonLatin ·) = true := by
      decide +kernel
    rw [toList_cafeText]
    exact fun c hc => of_decide_eq_true (List.all_eq_true.1 hall c hc)
  have hhead : "<?xml version=\"1.0\" encoding=\"ISO-8859-1\"?>".toList <+: cafeText.toList :=
    ⟨(metadata cafeSets).text, toList_cafeText.symm⟩
  rcases ofText_ofBytes_of_latin cafeText hhead hchars with
    ⟨e, -, he, -⟩ | ⟨reading, hreading, hbytes⟩
  · rw [hread] at he
    cases he
  · rw [hread] at hreading
    obtain rfl := Except.ok.inj hreading
    exact ⟨hread, hbytes⟩

end ServiceDoc.Csdl

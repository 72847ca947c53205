import Mathlib
import ServiceDoc.Proofs.Text.CodePage
import ServiceDoc.Proofs.Xml.Head
import ServiceDoc.Proofs.Xml.Utf8
/-!
# Declared encodings

A document names its encoding in its head, which is read before the encoding is known, in the one
that the first bytes show. What is wrong with a document is told by a fault with its place, but for
one case: the name belongs to no encoding that can be used. Then there is nothing to decode the rest
of the document with, and the error is that of the name (`ofBytes_eq_charset_iff`).
-/

namespace ServiceDoc.Xml

namespace Document

open Encoding (CharsetFault Declared Detection)

/-- The name of the encoding that the head of a document declares. -/
def declaredName? (s : List Symbol) : Option (List Char) :=
  match readHead s with
  | .ok (some heading, _) => heading.encoding?.map Prod.fst
  | _ => none

/-- The name of the encoding that bytes declare, read in the one that their beginning shows. -/
def declaredEncoding? (bytes : List UInt8) : Option (List Char) :=
  (Encoding.detect? bytes).bind fun d =>
    declaredName? (d.encoding.decode (bytes.drop d.markSize))

/-- What keeps a declared name from being used; a table that does not begin with ASCII is refused as
an encoding, with a place, and is not one of these. -/
def unusable? (name : List Char) : Option CharsetFault :=
  match Declared.of (String.ofList name) with
  | .other =>
    match Encoding.charset? (String.ofList name) with
    | .error .foreign => none
    | .error f => some f
    | .ok _ => none
  | _ => none

theorem unusable?_of_charset? {name : List Char} {f : CharsetFault}
    (hname : Declared.of (String.ofList name) = .other)
    (hcharset : Encoding.charset? (String.ofList name) = .error f) (hf : f ≠ .foreign) :
    unusable? name = some f := by
  unfold unusable?
  rw [hname, hcharset]
  cases f with
  | foreign => exact absurd rfl hf
  | _ => rfl

theorem switchTo_eq_inr_iff (current : Encoding) (name : List Char) (f : CharsetFault) :
    switchTo current name = .error (.inr f) ↔ unusable? name = some f := by
  unfold switchTo unusable?
  cases Declared.of (String.ofList name) with
  | anyUtf16 => cases current <;> simp
  | known e =>
      cases e with
      | utf16 o =>
          cases current with
          | utf16 o' =>
              dsimp only
              split <;> simp
          | _ => simp
      | _ => cases current <;> simp
  | other =>
      cases Encoding.charset? (String.ofList name) with
      | ok p => cases current <;> simp
      | error g =>
          cases g <;> cases current <;> simp

theorem locate_ne_charset (document : List Symbol) (fault : Fault) (f : CharsetFault) :
    locate document fault ≠ .charset f := nofun

/-- Behind the head, an error tells of a place. -/
theorem body_ne_charset (document s : List Symbol) (standalone : Bool) (f : CharsetFault) :
    (match readBody standalone s with
      | .error fault => Except.error (locate document fault)
      | .ok root => .ok root) ≠ .error (.charset f) := by
  cases readBody standalone s with
  | error fault => exact fun h => locate_ne_charset document fault f (Except.error.inj h)
  | ok root => exact nofun

theorem ofDetected_eq_charset_iff (bytes : List UInt8) (d : Detection) (f : CharsetFault) :
    ofDetected bytes d = .error (.charset f) ↔
      (declaredName? (d.encoding.decode (bytes.drop d.markSize))).bind unusable? = some f := by
  unfold ofDetected declaredName?
  extract_lets body document
  cases readHead body with
  | error fault => simp [locate_ne_charset]
  | ok head =>
      obtain ⟨_ | ⟨_ | ⟨name, nameAt⟩, standalone⟩, s⟩ := head
      · exact iff_of_false (body_ne_charset document s _ f) nofun
      · exact iff_of_false (body_ne_charset document s _ f) nofun
      · change _ ↔ unusable? name = some f
        rw [← switchTo_eq_inr_iff d.encoding]
        dsimp only
        cases switchTo d.encoding name with
        | error e =>
            cases e with
            | inl cause => simp [locate_ne_charset]
            | inr g => simp
        | ok e => exact iff_of_false (body_ne_charset _ _ standalone f) nofun

/-- Reading bytes fails without a place exactly where they declare an encoding that cannot be
used. -/
theorem ofBytes_eq_charset_iff (bytes : List UInt8) (f : CharsetFault) :
    ofBytes bytes = .error (.charset f) ↔
      (declaredEncoding? bytes).bind unusable? = some f := by
  unfold ofBytes declaredEncoding?
  cases Encoding.detect? bytes with
  | none => exact iff_of_false nofun nofun
  | some d => exact ofDetected_eq_charset_iff bytes d f

/-- A name is declared by the head that was written for it. -/
theorem declaredEncoding?_utf8_headText {name : List Char} (h : isEncodingName name)
    (cs : List Char) : declaredEncoding? (Text.utf8 (headText name ++ cs)) = some name := by
  have hdetect : Encoding.detect? (Text.utf8 (headText name ++ cs)) = some ⟨.utf8, 0⟩ :=
    Encoding.detect?_head _
  rw [declaredEncoding?, hdetect, Option.bind_some, List.drop_zero, Encoding.decode_utf8,
    symbols_append, declaredName?, readHead_headText h]
  rfl

end Document

/-! ## Names that no table knows -/

/-- A name that stands in none of the tables is unknown. -/
theorem Encoding.charset?_eq_unknown {name n undotted : String}
    (hn : String.ofList (normalizeName false name.toList) = n)
    (hundotted : (n.map fun c => if c = '.' then '_' else c) = undotted)
    (hpages : CodePage.all.find? (fun p => p.isNamed n || p.isNamed undotted) = none)
    (hothers : ∀ names ∈ [CodePage.foreign, CodePage.wide, CodePage.binary],
      n ∉ names ∧ undotted ∉ names)
    (hspecial : n ∉ ["idna", "undefined", "punycode"]) :
    charset? name = .error (.unknown name) := by
  simp only [List.mem_cons, List.not_mem_nil, or_false, forall_eq_or_imp, forall_eq, not_or]
    at hothers hspecial
  simp only [charset?, hn, hundotted, hpages, List.contains_eq_mem, hothers, hspecial, decide_false,
    Bool.or_false, Bool.false_eq_true, if_false]

theorem Encoding.declared_klingon :
    Declared.of (String.ofList "klingon".toList) = .other := by
  have hupper : (String.ofList "klingon".toList).map Char.toUpper = "KLINGON" := by
    cbv
  rw [Declared.of, hupper]
  all_goals simp

theorem Encoding.charset?_klingon :
    Encoding.charset? "klingon" = .error (.unknown "klingon") :=
  charset?_eq_unknown (n := "klingon") (by cbv) (by cbv) CodePage.find?_all_klingon
    (fun _ h => ⟨CodePage.klingon_notMem_others h, CodePage.klingon_notMem_others h⟩) (by decide)

end ServiceDoc.Xml

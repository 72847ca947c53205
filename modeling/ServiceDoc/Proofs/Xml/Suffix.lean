import Mathlib
import ServiceDoc.Xml.Document
/-!
# What scanners leave

Every reader of markup leaves an end of what it was given: it drops symbols from the beginning and
makes up none. So what holds of all symbols of a document holds of all symbols that a reader meets
on its way through it (`suffix_scanToken`, `suffix_readProlog`).
-/

namespace ServiceDoc.Xml

/-! ## Ends of lists -/

theorem suffix_of_cons {x : Symbol} {r s : List Symbol} (h : x :: r <:+ s) : r <:+ s :=
  (List.suffix_cons x r).trans h

-- What is left of a rest is a rest, also behind the symbols that a pattern names.
attribute [grind →] List.IsSuffix.trans suffix_of_cons
attribute [grind =] List.suffix_cons_iff
grind_pattern List.tail_suffix => l.tail

theorem suffix_skipBlanks (s : List Symbol) : skipBlanks s <:+ s := List.dropWhile_suffix _

grind_pattern suffix_skipBlanks => skipBlanks s

@[grind →]
theorem exists_of_map_eq_ok {ε α β : Type} {f : α → β} {x : Except ε α} {b : β}
    (h : x.map f = .ok b) : ∃ a, x = .ok a ∧ f a = b := by
  cases x with
  | error e => cases h
  | ok a => exact ⟨a, rfl, Except.ok.inj h⟩

/-! ## Names and references -/

theorem suffix_nameRest (acc : List Char) (s : List Symbol) : (nameRest acc s).2 <:+ s := by
  fun_induction nameRest acc s <;> grind

grind_pattern suffix_nameRest => nameRest acc s

@[grind →]
theorem suffix_scanName {s r : List Symbol} {n : List Char} (h : scanName s = .ok (n, r)) :
    r <:+ s := by
  unfold scanName at h
  grind

@[grind →]
theorem suffix_scanQName {s r : List Symbol} {n : List Char} (h : scanQName s = .ok (n, r)) :
    r <:+ s := by
  unfold scanQName at h
  grind

theorem suffix_scanRun (test : Char → Bool) (acc : List Char) (s : List Symbol) :
    (scanRun test acc s).2 <:+ s := by
  fun_induction scanRun test acc s <;> grind

grind_pattern suffix_scanRun => scanRun test acc s

@[grind →]
theorem suffix_scanCharNumber {hex : Bool} {s r : List Symbol} {x : Reference}
    (h : scanCharNumber hex s = .ok (x, r)) : r <:+ s := by
  unfold scanCharNumber at h
  grind

@[grind →]
theorem suffix_scanReference {s r : List Symbol} {x : Reference}
    (h : scanReference s = .ok (x, r)) : r <:+ s := by
  unfold scanReference at h
  grind

/-! ## Comments and processing instructions -/

@[grind →]
theorem suffix_scanComment {s r : List Symbol} (h : scanComment s = .ok r) : r <:+ s := by
  fun_induction scanComment s <;> grind

@[grind →]
theorem suffix_scanInstructionBody {s r : List Symbol}
    (h : scanInstructionBody s = .ok r) : r <:+ s := by
  fun_induction scanInstructionBody s <;> grind

@[grind →]
theorem suffix_scanInstruction {s r : List Symbol} {k : Instruction}
    (h : scanInstruction s = .ok (k, r)) : r <:+ s := by
  unfold scanInstruction at h
  split at h
  · cases h
  · next target t ht => split at h <;> grind

/-! ## Tags -/

@[grind →]
theorem suffix_scanValue {quote : Char} {acc s r v : List Symbol}
    (h : scanValue quote acc s = .ok (v, r)) : r <:+ s := by
  fun_induction scanValue quote acc s <;> grind

@[grind →]
theorem suffix_scanEquals {s r : List Symbol} (h : scanEquals s = .ok r) : r <:+ s := by
  unfold scanEquals at h
  grind

@[grind →]
theorem suffix_scanAttribute {s r : List Symbol} {a : RawAttribute}
    (h : scanAttribute s = .ok (a, r)) : r <:+ s := by
  unfold scanAttribute at h
  grind

@[grind →]
theorem suffix_scanTagEnd {s r : List Symbol} {b : Bool}
    (h : scanTagEnd s = some (.ok (b, r))) : r <:+ s := by
  unfold scanTagEnd at h
  grind

@[grind →]
theorem suffix_scanAttributes {acc : List RawAttribute} {s r : List Symbol}
    {x : List RawAttribute × Bool} (h : scanAttributes acc s = .ok (x, r)) : r <:+ s := by
  fun_induction scanAttributes acc s <;> grind

@[grind →]
theorem suffix_scanStartTag {s r : List Symbol} {t : StartTag}
    (h : scanStartTag s = .ok (t, r)) : r <:+ s := by
  unfold scanStartTag at h
  grind

theorem suffix_endNameRest (acc : List Char) (s : List Symbol) : (endNameRest acc s).2 <:+ s := by
  fun_induction endNameRest acc s <;> grind

grind_pattern suffix_endNameRest => endNameRest acc s

@[grind →]
theorem suffix_scanEndTag {s r : List Symbol} {n : List Char}
    (h : scanEndTag s = .ok (n, r)) : r <:+ s := by
  unfold scanEndTag at h
  grind

/-! ## Tokens of content -/

@[grind →]
theorem suffix_scanText {acc cs : List Char} {s r : List Symbol}
    (h : scanText acc s = .ok (cs, r)) : r <:+ s := by
  fun_induction scanText acc s <;> grind

@[grind →]
theorem suffix_scanFixed {cs : List Char} {s r : List Symbol} (h : scanFixed cs s = .ok r) :
    r <:+ s := by
  fun_induction scanFixed cs s <;> grind

@[grind →]
theorem suffix_scanCdata {acc cs : List Char} {s r : List Symbol}
    (h : scanCdata acc s = .ok (cs, r)) : r <:+ s := by
  fun_induction scanCdata acc s <;> grind

@[grind →]
theorem suffix_scanSection {start s r : List Symbol} {t : Token}
    (h : scanSection start s = .ok (t, r)) : r <:+ s := by
  unfold scanSection at h
  grind

@[grind →]
theorem suffix_scanMarkup {start s r : List Symbol} {t : Token}
    (h : scanMarkup start s = .ok (t, r)) : r <:+ s := by
  unfold scanMarkup at h
  grind

@[grind →]
theorem suffix_scanToken {s r : List Symbol} {t : Token} (h : scanToken s = .ok (t, r)) :
    r <:+ s := by
  unfold scanToken at h
  grind

/-! ## Lexemes -/

@[grind →]
theorem suffix_keywordRest {acc k : List Char} {s r : List Symbol}
    (h : keywordRest acc s = .ok (k, r)) : r <:+ s := by
  fun_induction keywordRest acc s <;> grind

@[grind →]
theorem suffix_scanDeclaration {s r : List Symbol} {x : Lexeme}
    (h : scanDeclaration s = .ok (x, r)) : r <:+ s := by
  unfold scanDeclaration at h
  grind

@[grind →]
theorem suffix_scanLiteral {quote : Char} {acc s r v : List Symbol}
    (h : scanLiteral quote acc s = .ok (v, r)) : r <:+ s := by
  fun_induction scanLiteral quote acc s <;> grind

@[grind →]
theorem suffix_scanQuoted {quote : Char} {s r : List Symbol} {x : Lexeme}
    (h : scanQuoted quote s = .ok (x, r)) : r <:+ s := by
  unfold scanQuoted at h
  grind

@[grind →]
theorem suffix_scanPercent {s r : List Symbol} {x : Lexeme}
    (h : scanPercent s = .ok (x, r)) : r <:+ s := by
  unfold scanPercent at h
  grind

@[grind →]
theorem suffix_scanNameToken {form : NameForm} {acc : List Char} {s r : List Symbol} {x : Lexeme}
    (h : scanNameToken form acc s = .ok (x, r)) : r <:+ s := by
  fun_induction scanNameToken form acc s <;> grind

@[grind →]
theorem suffix_scanKeyword {s r : List Symbol} {x : Lexeme}
    (h : scanKeyword s = .ok (x, r)) : r <:+ s := by
  unfold scanKeyword at h
  grind

@[grind →]
theorem suffix_scanBracketClose {s r : List Symbol} {x : Lexeme}
    (h : scanBracketClose s = .ok (x, r)) : r <:+ s := by
  unfold scanBracketClose at h
  grind

@[grind →]
theorem suffix_scanParenClose {s r : List Symbol} {x : Lexeme}
    (h : scanParenClose s = .ok (x, r)) : r <:+ s := by
  unfold scanParenClose at h
  grind

@[grind →]
theorem suffix_scanLexeme {s r : List Symbol} {x : Lexeme}
    (h : scanLexeme s = .ok (x, r)) : r <:+ s := by
  unfold scanLexeme at h
  grind

/-! ## Parts of a document -/

theorem suffix_lexemes {acc : List Placed} {s r : List Symbol}
    (h : (lexemes acc s).2 = .root r) : r <:+ s := by
  fun_induction lexemes acc s <;> grind

theorem suffix_readProlog {standalone : Bool} {s r : List Symbol} {d : Dtd}
    (h : readProlog standalone s = .ok (d, r)) : r <:+ s := by
  unfold readProlog at h
  grind [suffix_lexemes]

theorem suffix_readHead {s r : List Symbol} {x : Option Heading}
    (h : Document.readHead s = .ok (x, r)) : r <:+ s := by
  unfold Document.readHead at h
  grind

end ServiceDoc.Xml

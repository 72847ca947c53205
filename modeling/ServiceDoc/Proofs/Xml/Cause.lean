import ServiceDoc.Proofs.Text.Line
import ServiceDoc.Proofs.Xml.Suffix
/-!
# Causes told on one line

What is wrong with a document is told by its cause. Nearly all causes are fixed texts; one tells the
name of an entity (`Cause.IsOneLine`). Only the reader of content finds fault with that, so whatever
else may fail is told on one line.
-/

namespace ServiceDoc.Xml

/-! ## Causes -/

/-- Whether a cause is told on one line: the only text that it may tell is the name of an entity. -/
@[grind]
def Cause.IsOneLine : Cause → Prop
  | skippedEntity name => '\n' ∉ name
  | _ => True

theorem takeUtf8_subset (n : Nat) (cs : List Char) : takeUtf8 n cs ⊆ cs := by
  fun_induction takeUtf8 n cs with
  | case1 => exact List.Subset.refl _
  | case2 n c r h ih => exact List.cons_subset_cons c ih
  | case3 => exact List.nil_subset _

theorem Cause.IsOneLine.isOneLine_message {cause : Cause} (h : cause.IsOneLine) :
    Text.IsOneLine cause.message := by
  cases cause with
  | skippedEntity name =>
      have hname : '\n' ∉ '&' :: name ++ [';'] := by
        simpa [IsOneLine] using h
      have hcut : '\n' ∉ takeUtf8 100 ('&' :: name ++ [';']) :=
        fun hmem => hname (takeUtf8_subset 100 _ hmem)
      have hmessage : (skippedEntity name).message =
          "undefined entity " ++ String.ofList (takeUtf8 100 ('&' :: name ++ [';'])) := rfl
      rw [hmessage, Text.isOneLine_append]
      exact ⟨by decide, Text.isOneLine_ofList hcut⟩
  | _ => exact Text.isOneLine_ofList (by decide)

/-! ## Tokens -/

theorem isOneLine_toFault (start : List Symbol) (f : ScanFault) :
    (f.toFault start).cause.IsOneLine := by
  cases f <;> trivial

grind_pattern isOneLine_toFault => f.toFault start

@[grind →]
theorem isOneLine_scanText {acc : List Char} {s : List Symbol} {f : Fault}
    (h : scanText acc s = .error f) : f.cause.IsOneLine := by
  fun_induction scanText acc s <;> grind

@[grind →]
theorem isOneLine_scanCdata {acc : List Char} {s : List Symbol} {f : Fault}
    (h : scanCdata acc s = .error f) : f.cause.IsOneLine := by
  fun_induction scanCdata acc s <;> grind

@[grind →]
theorem isOneLine_scanSection {start s : List Symbol} {f : Fault}
    (h : scanSection start s = .error f) : f.cause.IsOneLine := by
  unfold scanSection at h
  grind

@[grind →]
theorem isOneLine_scanMarkup {start s : List Symbol} {f : Fault}
    (h : scanMarkup start s = .error f) : f.cause.IsOneLine := by
  unfold scanMarkup at h
  grind

@[grind →]
theorem isOneLine_scanToken {s : List Symbol} {f : Fault} (h : scanToken s = .error f) :
    f.cause.IsOneLine := by
  unfold scanToken at h
  grind

/-! ## Tags -/

@[grind →]
theorem isOneLine_readValue {dtd : Dtd} {tokenized : Bool} {start s : List Symbol}
    {avail : List Entity} {place : List Symbol → List Symbol} {acc : List Char} {f : Fault}
    (h : readValue dtd tokenized start avail place acc s = .error f) : f.cause.IsOneLine := by
  fun_induction readValue dtd tokenized start avail place acc s <;> grind

@[grind →]
theorem isOneLine_expandValue {dtd : Dtd} {tokenized : Bool} {start value valueEnd : List Symbol}
    {f : Fault} (h : expandValue dtd tokenized start value valueEnd = .error f) :
    f.cause.IsOneLine := by
  unfold expandValue at h
  grind

@[grind →]
theorem isOneLine_bindingFault? {pfx address : List Char} {cause : Cause}
    (h : Scope.bindingFault? pfx address = some cause) : cause.IsOneLine := by
  unfold Scope.bindingFault? at h
  grind

@[grind →]
theorem isOneLine_bind {scope : Scope} {pfx address : List Char} {cause : Cause}
    (h : scope.bind pfx address = .error cause) : cause.IsOneLine := by
  unfold Scope.bind at h
  grind

@[grind →]
theorem isOneLine_add {t : TagReading} {name value : List Char} {cause : Cause}
    (h : t.add name value = .error cause) : cause.IsOneLine := by
  unfold TagReading.add at h
  grind

@[grind →]
theorem isOneLine_addGiven {dtd : Dtd} {start : List Symbol} {declared : List DeclaredAttribute}
    {t : TagReading} {as : List RawAttribute} {f : Fault}
    (h : t.addGiven dtd start declared as = .error f) : f.cause.IsOneLine := by
  fun_induction TagReading.addGiven dtd start declared t as <;> grind

@[grind →]
theorem isOneLine_addDefaults {t : TagReading} {declared : List DeclaredAttribute} {cause : Cause}
    (h : t.addDefaults declared = .error cause) : cause.IsOneLine := by
  fun_induction TagReading.addDefaults t declared <;> grind

@[grind →]
theorem isOneLine_resolveAttributes {scope : Scope} {seen : List Name} {acc : List Attribute}
    {as : List (List Char × List Char)} {cause : Cause}
    (h : resolveAttributes scope seen acc as = .error cause) : cause.IsOneLine := by
  fun_induction resolveAttributes scope seen acc as <;> grind

@[grind →]
theorem isOneLine_resolveElement {scope : Scope} {name : List Char} {cause : Cause}
    (h : resolveElement scope name = .error cause) : cause.IsOneLine := by
  unfold resolveElement at h
  grind

@[grind →]
theorem isOneLine_opening {dtd : Dtd} {scope : Scope} {start : List Symbol} {tag : StartTag}
    {f : Fault} (h : tag.opening dtd scope start = .error f) : f.cause.IsOneLine := by
  unfold StartTag.opening at h
  grind

/-! ## The prolog -/

theorem isOneLine_misplaced (p : Placed) : p.misplaced.cause.IsOneLine := by
  unfold Placed.misplaced
  grind

grind_pattern isOneLine_misplaced => p.misplaced

@[grind →]
theorem isOneLine_acceptPublicId {α : Type} {value valueEnd : List Symbol} {next : α} {f : Fault}
    (h : acceptPublicId value valueEnd next = .error f) : f.cause.IsOneLine := by
  unfold acceptPublicId at h
  grind

@[grind →]
theorem isOneLine_readEntityText {place : List Symbol → List Symbol} {acc : List Char}
    {s : List Symbol} {f : Fault} (h : readEntityText place acc s = .error f) :
    f.cause.IsOneLine := by
  fun_induction readEntityText place acc s <;> grind

@[grind →]
theorem isOneLine_entityStep {d : Dtd} {p : Placed} {stage : EntityStage} {f : Fault}
    (h : stage.step d p = .error f) : f.cause.IsOneLine := by
  cases stage <;> unfold EntityStage.step at h <;> grind

@[grind →]
theorem isOneLine_stepDefault {d : Dtd} {p : Placed} {element name : List Char} {tokenized : Bool}
    {v valueEnd : List Symbol} {f : Fault}
    (h : stepDefault d p element name tokenized v valueEnd = .error f) : f.cause.IsOneLine := by
  unfold stepDefault at h
  grind

@[grind →]
theorem isOneLine_attributeStep {d : Dtd} {p : Placed} {stage : AttributeStage} {f : Fault}
    (h : stage.step d p = .error f) : f.cause.IsOneLine := by
  unfold AttributeStage.step at h
  repeat' split at h
  all_goals
    first
    | exact isOneLine_stepDefault h
    | (cases h; exact isOneLine_misplaced p)
    | cases h

@[grind →]
theorem isOneLine_connect {d : Dtd} {p : Placed} {c : Char} {groups : List (Option Char)}
    {f : Fault} (h : connect d p c groups = .error f) : f.cause.IsOneLine := by
  unfold connect at h
  grind

@[grind →]
theorem isOneLine_elementStep {d : Dtd} {p : Placed} {stage : ElementStage} {f : Fault}
    (h : stage.step d p = .error f) : f.cause.IsOneLine := by
  unfold ElementStage.step at h
  repeat' split at h
  all_goals
    first
    | exact isOneLine_connect h
    | (cases h; exact isOneLine_misplaced p)
    | cases h

@[grind →]
theorem isOneLine_formatStep {d : Dtd} {p : Placed} {stage : FormatStage} {f : Fault}
    (h : stage.step d p = .error f) : f.cause.IsOneLine := by
  cases stage <;> unfold FormatStage.step at h <;> grind

@[grind →]
theorem isOneLine_step {d : Dtd} {p : Placed} {stage : Stage} {f : Fault}
    (h : stage.step d p = .error f) : f.cause.IsOneLine := by
  cases stage with
  | entity e => exact isOneLine_entityStep h
  | attributes a => exact isOneLine_attributeStep h
  | element e => exact isOneLine_elementStep h
  | format e => exact isOneLine_formatStep h
  | _ =>
      simp only [Stage.step] at h
      repeat' split at h
      all_goals
        first
        | exact isOneLine_acceptPublicId h
        | (cases h; exact isOneLine_misplaced p)
        | cases h

@[grind →]
theorem isOneLine_run {d : Dtd} {stage : Stage} {ps : List Placed} {f : Fault}
    (h : Stage.run d stage ps = .error f) : f.cause.IsOneLine := by
  fun_induction Stage.run d stage ps <;> grind

@[grind →]
theorem isOneLine_lexemes {acc : List Placed} {s : List Symbol} {f : Fault}
    (h : (lexemes acc s).2 = .fault f) : f.cause.IsOneLine := by
  fun_induction lexemes acc s <;> grind

@[grind →]
theorem isOneLine_readProlog {standalone : Bool} {s : List Symbol} {f : Fault}
    (h : readProlog standalone s = .error f) : f.cause.IsOneLine := by
  unfold readProlog at h
  grind

@[grind →]
theorem isOneLine_readEpilog {s : List Symbol} {f : Fault}
    (h : readEpilog s = .error f) : f.cause.IsOneLine := by
  unfold readEpilog at h
  grind

@[grind →]
theorem isOneLine_readHead {s : List Symbol} {f : Fault}
    (h : Document.readHead s = .error f) : f.cause.IsOneLine := by
  unfold Document.readHead at h
  grind

@[grind →]
theorem isOneLine_switchTo {current : Encoding} {name : List Char} {cause : Cause}
    (h : Document.switchTo current name = .error (.inl cause)) : cause.IsOneLine := by
  unfold Document.switchTo at h
  grind

/-- What an encoding says that refuses to be tried out. -/
theorem isOneLine_of_charset? {name reason : String}
    (h : Encoding.charset? name = .error (.refused reason)) : Text.IsOneLine reason := by
  unfold Encoding.charset? at h
  dsimp only at h
  repeat' split at h
  all_goals
    first
    | (cases h; decide)
    | cases h

theorem isOneLine_of_switchTo {current : Encoding} {name : List Char} {reason : String}
    (h : Document.switchTo current name = .error (.inr (.refused reason))) :
    Text.IsOneLine reason := by
  unfold Document.switchTo at h
  grind [isOneLine_of_charset?]

end ServiceDoc.Xml

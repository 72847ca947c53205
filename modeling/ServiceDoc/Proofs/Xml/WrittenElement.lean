import Mathlib.Data.List.TakeDrop
import Mathlib.Data.List.TakeWhile
import ServiceDoc.Proofs.Xml.WrittenTag
import ServiceDoc.Xml.Element
/-!
# Elements from written tags

What a written start tag opens in a document that declares nothing: the element of its name, with
the attributes as they were before they were written. Every reference stands for the character that
it was written for, no name declares a namespace, and none has a prefix to resolve.
-/

namespace ServiceDoc.Xml

/-! ## Values -/

section Values

variable {dtd : Dtd} {start : List Symbol} {avail : List Entity}
  {place : List Symbol → List Symbol} {acc : List Char}

theorem readValue_charReference {role : NameRole} {r r' : List Symbol} {c : Char}
    (h : scanReference r = .ok (.char (some c), r')) (hc : c ≠ ' ') :
    readValue dtd false start avail place acc (.char '&' role :: r) =
      readValue dtd false start avail place (c :: acc) r' := by
  rw [readValue]
  split <;> rename_i heq <;> rw [h] at heq <;> cases heq
  exact congrArg (readValue dtd false start avail place · r') (if_neg hc)

theorem readValue_entityReference {role : NameRole} {r r' : List Symbol} {name : List Char}
    {c : Char} (h : scanReference r = .ok (.entity name, r'))
    (hc : predefinedEntity? name = some c) :
    readValue dtd false start avail place acc (.char '&' role :: r) =
      readValue dtd false start avail place (c :: acc) r' := by
  rw [readValue]
  split <;> rename_i heq <;> rw [h] at heq <;> cases heq
  rw [hc]

/-- A character that is neither markup nor a blank other than the space is read as itself. -/
theorem readValue_char {c : Char} (role : NameRole) (hc : c ∉ referenced) (r : List Symbol) :
    readValue dtd false start avail place acc (.char c role :: r) =
      readValue dtd false start avail place (c :: acc) r := by
  simp only [referenced, List.mem_cons, List.not_mem_nil, or_false, not_or] at hc
  obtain ⟨hamp, hlt, -, htab, hlf, hcr⟩ := hc
  rw [readValue]
  · rw [if_neg hlt]
    by_cases hspace : c = ' '
    · subst hspace
      rw [if_pos (Or.inl rfl)]
      rfl
    · rw [if_neg (by simp [hspace, htab, hlf, hcr])]
  · intro role' role'' r' heq
    cases heq
    exact hcr rfl
  · exact hamp

/-- A written character is read as itself, whether a reference stands for it or not. -/
theorem readValue_escapeChar {c : Char} (h : isLegal c) (r : List Symbol) :
    readValue dtd false start avail place acc (symbols (escapeChar c) ++ r) =
      readValue dtd false start avail place (c :: acc) r := by
  by_cases hc : c ∈ referenced
  · simp only [referenced, List.mem_cons, List.not_mem_nil, or_false] at hc
    rcases hc with rfl | rfl | rfl | rfl | rfl | rfl
    · exact readValue_entityReference rfl rfl
    · exact readValue_entityReference rfl rfl
    · exact readValue_entityReference rfl rfl
    · exact readValue_charReference rfl (by decide)
    · exact readValue_charReference rfl (by decide)
    · exact readValue_charReference rfl (by decide)
  · rw [escapeChar_of_notMem hc, symbols_cons, symbols_nil, ofChar_of_isLegal h,
      List.singleton_append]
    exact readValue_char _ hc r

theorem readValue_escape {cs : List Char} (h : ∀ c ∈ cs, isLegal c) :
    readValue dtd false start avail place acc (symbols (cs.flatMap escapeChar)) =
      .ok (cs.reverse ++ acc) := by
  induction cs generalizing acc with
  | nil => simp [readValue]
  | cons c cs ih =>
      rw [List.flatMap_cons, symbols_append, readValue_escapeChar (h c List.mem_cons_self),
        ih fun c' hc' => h c' (List.mem_cons_of_mem c hc')]
      simp

end Values

/-- A written value stands for the text that was written. -/
theorem expandValue_escape (dtd : Dtd) (start valueEnd : List Symbol) {value : String}
    (h : ∀ c ∈ value.toList, isLegal c) :
    expandValue dtd false start (symbols (escape value)) valueEnd = .ok value.toList := by
  rw [expandValue, escape, readValue_escape h]
  simp

/-! ## Names -/

theorem colon_notMem_of_isPlainName {n : List Char} (h : isPlainName n) : ':' ∉ n := by
  obtain ⟨c, cs, rfl, hc, hcs⟩ := exists_cons_of_isPlainName h
  rw [List.mem_cons]
  rintro (rfl | hmem)
  · cases hc
  · exact absurd (hcs ':' hmem) (by decide)

theorem splitName_of_notMem {n : List Char} (h : ':' ∉ n) : splitName n = (none, n) := by
  have hspan : n.span (· ≠ ':') = (n, []) := by
    rw [List.span_eq_takeWhile_dropWhile, Prod.mk.injEq, List.takeWhile_eq_self_iff,
      List.dropWhile_eq_nil_iff]
    have hall : ∀ c ∈ n, decide (c ≠ ':') = true := by
      intro c hc
      rw [decide_eq_true_eq]
      rintro rfl
      exact h hc
    exact ⟨hall, hall⟩
  rw [splitName, hspan]

theorem declaredPrefix?_eq_none {n : List Char} (h : isPlainName n)
    (hx : n ≠ ['x', 'm', 'l', 'n', 's']) : declaredPrefix? n = none := by
  rw [declaredPrefix?, splitName_of_notMem (colon_notMem_of_isPlainName h)]
  exact if_neg hx

/-! ## Attributes -/

/-- The attributes of a tag before prefixes are resolved, in the order of the tag. -/
def writtenAttributes (as : List (String × String)) : List (List Char × List Char) :=
  as.map fun a => (a.1.toList, a.2.toList)

/-- The attributes of a written tag are taken in one after another. -/
theorem addGiven_rawAttributes (start tail : List Symbol) {as : List (String × String)}
    (ha : AreWritable as) (t : TagReading) (ht : ∀ a ∈ as, a.1.toList ∉ t.given) :
    TagReading.addGiven {} start [] t (rawAttributes tail as) =
      .ok ⟨(as.map (·.1.toList)).reverse ++ t.given, (writtenAttributes as).reverse ++ t.attributes,
        t.scope⟩ := by
  induction as generalizing t with
  | nil => rfl
  | cons a as ih =>
      obtain ⟨hplain, hxmlns⟩ := ha.names a List.mem_cons_self
      have hdistinct := ha.distinct
      rw [List.map_cons, List.nodup_cons] at hdistinct
      have hrest : AreWritable as :=
        ⟨fun b hb => ha.names b (List.mem_cons_of_mem a hb), hdistinct.2,
          fun b hb => ha.values b (List.mem_cons_of_mem a hb)⟩
      have hgiven : t.given.contains a.1.toList = false := by
        rw [List.contains_eq_mem, decide_eq_false_iff_not]
        exact ht a List.mem_cons_self
      simp only [rawAttributes, TagReading.addGiven, hgiven, List.find?_nil, Option.map_none,
        Option.getD_none, expandValue_escape {} start _ (ha.values a List.mem_cons_self),
        TagReading.add, declaredPrefix?_eq_none hplain hxmlns]
      rw [if_neg Bool.false_ne_true, ih hrest]
      · simp [writtenAttributes]
      · intro b hb
        rw [List.mem_cons, not_or]
        constructor
        · intro heq
          apply hdistinct.1
          rw [← String.toList_inj.1 heq]
          exact List.mem_map_of_mem hb
        · exact ht b (List.mem_cons_of_mem a hb)

theorem resolveAttributes_written (scope : Scope) (seen : List Name) (acc : List Attribute)
    {as : List (String × String)} (ha : ∀ a ∈ as, isPlainName a.1.toList) :
    resolveAttributes scope seen acc (writtenAttributes as) =
      .ok (acc.reverse ++ attributeNodes as) := by
  induction as generalizing acc with
  | nil => simp [resolveAttributes, writtenAttributes, attributeNodes]
  | cons a as ih =>
      have hsplit := splitName_of_notMem
        (colon_notMem_of_isPlainName (ha a List.mem_cons_self))
      rw [writtenAttributes, List.map_cons, resolveAttributes, hsplit]
      simp only
      rw [← writtenAttributes, ih _ fun b hb => ha b (List.mem_cons_of_mem a hb)]
      simp [attributeNodes]

/-! ## Elements -/

theorem resolveElement_preset {name : String} (h : isPlainName name.toList) :
    resolveElement Scope.preset name.toList = .ok ⟨none, name⟩ := by
  rw [resolveElement, splitName_of_notMem (colon_notMem_of_isPlainName h)]
  simp [Scope.default?, Scope.preset]

/-- In a document without declarations a written tag opens the element that was written, and binds
nothing inside it. -/
theorem opening_symbols (start tail : List Symbol) {name : String} {as : List (String × String)}
    (closed : Bool) (hn : isPlainName name.toList) (ha : AreWritable as) :
    StartTag.opening {} Scope.preset start ⟨name.toList, rawAttributes tail as, closed⟩ =
      .ok ⟨⟨none, name⟩, attributeNodes as, Scope.preset⟩ := by
  have hgiven := addGiven_rawAttributes start tail ha ⟨[], [], Scope.preset⟩ (by simp)
  have hresolve := resolveAttributes_written Scope.preset [] [] fun a h => (ha.names a h).1
  simp only [StartTag.opening, Dtd.attributesOf, List.lookup_nil, Option.getD_none, hgiven,
    TagReading.addDefaults, List.append_nil, List.reverse_reverse, hresolve,
    resolveElement_preset hn, List.reverse_nil, List.nil_append]

end ServiceDoc.Xml

import Mathlib
import ServiceDoc.Proofs.Text.LowerCase
import ServiceDoc.Proofs.Uri.Host
import ServiceDoc.Uri.Idna
/-!
# Names of hosts as the network writes them

A name is written label by label, each as it is in lower case or in Punycode (`eq_of_encode?`). What
is written has no capitals, and it looks like a numeric address only if the name did
(`looksIpv4_of_encode?`): without Punycode the digits are where they were, and the mark of a label
in Punycode alone has more other characters than an address.
-/

namespace ServiceDoc.Uri

/-! ## Parts between separators -/

section Separator

variable (separator : Char)

theorem mem_intercalate {separator : Char} {ss : List (List Char)} {c : Char}
    (h : c ∈ [separator].intercalate ss) : c = separator ∨ ∃ s ∈ ss, c ∈ s := by
  induction ss with
  | nil => simp at h
  | cons t ss ih =>
      cases ss with
      | nil => exact .inr ⟨t, List.mem_cons_self, by simpa using h⟩
      | cons u ss =>
          rw [List.intercalate_cons_cons, List.mem_append, List.mem_append, List.mem_singleton] at h
          rcases h with (h | h) | h
          · exact .inr ⟨t, List.mem_cons_self, h⟩
          · exact .inl h
          · rcases ih h with h | ⟨s, hs, hc⟩
            · exact .inl h
            · exact .inr ⟨s, List.mem_cons_of_mem t hs, hc⟩

theorem sublist_intercalate {ss : List (List Char)} {s : List Char} (hs : s ∈ ss) :
    s.Sublist ([separator].intercalate ss) := by
  induction ss with
  | nil => simp at hs
  | cons t ss ih =>
      cases ss with
      | nil => simp_all
      | cons u ss =>
          rw [List.intercalate_cons_cons, List.append_assoc]
          rcases List.mem_cons.1 hs with rfl | hs
          · exact List.sublist_append_left _ _
          · exact (ih hs).trans ((List.sublist_append_right _ _).trans
              (List.sublist_append_right _ _))

/-- Parts that are put together hold what each of them holds, apart from the separator. -/
theorem mem_intercalate_iff {c : Char} (hc : c ≠ separator) (ss : List (List Char)) :
    c ∈ [separator].intercalate ss ↔ ∃ s ∈ ss, c ∈ s := by
  constructor
  · exact fun h => (mem_intercalate h).resolve_left hc
  · rintro ⟨s, hs, h⟩
    exact (sublist_intercalate separator hs).subset h

theorem intercalate_append_nil {ss : List (List Char)} (hne : ss ≠ []) :
    [separator].intercalate (ss ++ [[]]) = [separator].intercalate ss ++ [separator] := by
  induction ss with
  | nil => contradiction
  | cons t ss ih =>
      cases ss with
      | nil => simp
      | cons u ss =>
          have hrest := ih (List.cons_ne_nil u ss)
          rw [List.cons_append] at hrest
          rw [List.cons_append, List.cons_append, List.intercalate_cons_cons, hrest,
            List.intercalate_cons_cons, List.append_assoc, List.append_assoc, List.append_assoc]

theorem intercalate_splitOnP (p : Char → Bool) (cs : List Char) :
    [separator].intercalate (cs.splitOnP p) = cs.map fun c => if p c then separator else c := by
  induction cs with
  | nil => simp
  | cons c cs ih =>
      obtain ⟨s, ss, hss⟩ := List.exists_cons_of_ne_nil (List.splitOnP_ne_nil p cs)
      rw [List.splitOnP_cons_eq_if_modifyHead, List.map_cons, ← ih, hss]
      by_cases hc : p c
      · simp [hc]
      · cases ss <;> simp [hc]

end Separator

namespace Idna

/-! ## Labels -/

theorem isUpper_digitChar {d : Nat} (h : d < 36) : (Punycode.digitChar d).isUpper = false := by
  have all : ∀ d ∈ List.range 36, (Punycode.digitChar d).isUpper = false := by decide
  exact all d (List.mem_range.mpr h)

theorem exists_digitChar_of_mem_digits {bias place n : Nat} {c : Char}
    (h : c ∈ Punycode.digits bias place n) : ∃ d < 36, c = Punycode.digitChar d := by
  fun_induction Punycode.digits bias place n with
  | case1 place n t hlt =>
      have hle := Punycode.threshold_le place bias
      exact ⟨n, by omega, List.mem_singleton.1 h⟩
  | case2 place n t hlt ih =>
      have hle := Punycode.threshold_le place bias
      rcases List.mem_cons.1 h with rfl | h
      · have hmod : (n - t) % (36 - t) < 36 - t := Nat.mod_lt _ (by omega)
        exact ⟨_, by omega, rfl⟩
      · exact ih h

theorem exists_digitChar_of_mem_writeNumbers {isFirst : Bool} {bias size : Nat} {ns : List Nat}
    {c : Char} (h : c ∈ Punycode.writeNumbers isFirst bias size ns) :
    ∃ d < 36, c = Punycode.digitChar d := by
  induction ns generalizing isFirst bias size with
  | nil => simp [Punycode.writeNumbers] at h
  | cons n ns ih =>
      rw [Punycode.writeNumbers, List.mem_append] at h
      rcases h with h | h
      · exact exists_digitChar_of_mem_digits h
      · exact ih h

/-- What is written in Punycode are ASCII characters of the text, a hyphen and digits. -/
theorem mem_punycode {text : List Char} {c : Char} (h : c ∈ Punycode.encode text) :
    (c ∈ text ∧ c.toNat < 0x80) ∨ c = '-' ∨ ∃ d < 36, c = Punycode.digitChar d := by
  simp only [Punycode.encode, List.mem_append] at h
  rcases h with (h | h) | h
  · exact .inl ⟨List.mem_of_mem_filter h, by simpa using List.of_mem_filter h⟩
  · split at h
    · simp at h
    · exact .inr (.inl (List.mem_singleton.1 h))
  · exact .inr (.inr (exists_digitChar_of_mem_writeNumbers h))

theorem isUpper_of_mem_punycode {label : List Char} {c : Char} (h : c ∈ Punycode.encode label) :
    c ∈ label ∨ c.isUpper = false := by
  rcases mem_punycode h with ⟨hmem, -⟩ | rfl | ⟨d, hd, rfl⟩
  · exact .inl hmem
  · exact .inr (by decide)
  · exact .inr (isUpper_digitChar hd)

/-- A label as the network writes it. -/
def writtenLabel (label : List Char) : List Char :=
  if isAscii label then label else mark ++ Punycode.encode label

theorem eq_of_encodeLabel? {label written : List Char} (h : encodeLabel? label = some written) :
    written = writtenLabel label := by
  rw [encodeLabel?] at h
  split at h
  · cases h
  · obtain ⟨-, hwritten⟩ := Option.ite_none_right_eq_some.1 h
    exact (Option.some.inj hwritten).symm

theorem isUpper_of_mem_writtenLabel {label : List Char} {c : Char} (h : c ∈ writtenLabel label) :
    c ∈ label ∨ c.isUpper = false := by
  rw [writtenLabel] at h
  split at h
  · exact .inl h
  · rcases List.mem_append.1 h with h | h
    · have hmark : mark.all (fun c => !c.isUpper) = true := by decide
      exact .inr (by simpa using List.all_eq_true.1 hmark c h)
    · exact isUpper_of_mem_punycode h

/-! ## Names -/

theorem eq_map_of_mapM {α β : Type} {f : α → Option β} {g : α → β}
    (hfg : ∀ x y, f x = some y → y = g x) {xs : List α} {ys : List β} (h : xs.mapM f = some ys) :
    ys = xs.map g := by
  induction xs generalizing ys with
  | nil => simpa using h.symm
  | cons x xs ih =>
      rw [List.mapM_cons] at h
      obtain ⟨y, hy, h⟩ := Option.bind_eq_some_iff.1 h
      obtain ⟨rest, hrest, h⟩ := Option.bind_eq_some_iff.1 h
      rw [← Option.some.inj h, List.map_cons, ih hrest, hfg x y hy]

/-- The labels of a name and the empty one behind a dot at its end. -/
theorem splitLabels_append (host : List Char) :
    (splitLabels host).1 ++ (if (splitLabels host).2 then [[]] else []) = host.splitOnP isDot := by
  rw [splitLabels]
  split
  · next hlast => exact List.dropLast_append_getLast? [] hlast
  · exact List.append_nil _

theorem eq_of_encode? {host name : List Char} (h : encode? host = some name) :
    name = ['.'].intercalate (((Text.lowerCase host).splitOnP isDot).map writtenLabel) := by
  rw [encode?] at h
  split at h
  · cases h
  · have hlabels := splitLabels_append (Text.lowerCase host)
    generalize splitLabels (Text.lowerCase host) = labels at h hlabels
    obtain ⟨labels, isClosed⟩ := labels
    dsimp only at h hlabels
    split at h
    · cases h
    · next written hwritten =>
      obtain rfl := eq_map_of_mapM (fun _ _ => eq_of_encodeLabel?) hwritten
      split at h
      · cases h
      · next hname =>
        have hne : labels.map writtenLabel ≠ [] := by
          intro hnil
          simp [hnil] at hname
        rw [← Option.some.inj h, ← hlabels, List.map_append]
        cases isClosed with
        | false => simp
        | true => exact (intercalate_append_nil '.' hne).symm

section Encode

variable {host name : List Char} (h : encode? host = some name)

include h

theorem isUpper_of_mem_encode? {c : Char} (hc : c ∈ name) : c.isUpper = false := by
  rw [eq_of_encode? h] at hc
  rcases mem_intercalate hc with rfl | ⟨s, hs, hc⟩
  · decide
  · obtain ⟨label, hlabel, rfl⟩ := List.mem_map.1 hs
    rcases isUpper_of_mem_writtenLabel hc with hc | hupper
    · have hall := (sublist_intercalate '.' hlabel).subset hc
      rw [intercalate_splitOnP] at hall
      obtain ⟨d, hd, rfl⟩ := List.mem_map.1 hall
      split
      · decide
      · exact Text.isUpper_of_mem_lowerCase hd
    · exact hupper

theorem looksIpv4_of_encode? (hlooks : looksIpv4 name = true) : looksIpv4 host = true := by
  have hname := eq_of_encode? h
  by_cases hascii : ∀ label ∈ (Text.lowerCase host).splitOnP isDot, isAscii label = true
  · -- Nothing is in Punycode: the name is the text in lower case with all dots written alike.
    have hwritten : ((Text.lowerCase host).splitOnP isDot).map writtenLabel =
        (Text.lowerCase host).splitOnP isDot := by
      conv_rhs => rw [← List.map_id ((Text.lowerCase host).splitOnP isDot)]
      refine List.map_congr_left fun label hlabel => ?_
      rw [writtenLabel, if_pos (hascii label hlabel), id]
    rw [hwritten] at hname
    have hdots := intercalate_splitOnP '.' isDot (Text.lowerCase host)
    have hdotted : '\u0307' ∉ Text.lowerCase host := by
      intro hmem
      have hmap : '\u0307' ∈ ['.'].intercalate ((Text.lowerCase host).splitOnP isDot) := by
        rw [hdots]
        exact List.mem_map.2 ⟨'\u0307', hmem, by decide⟩
      rcases mem_intercalate hmap with heq | ⟨label, hlabel, hc⟩
      · exact absurd heq (by decide)
      · have hall := List.all_eq_true.1 (hascii label hlabel) _ hc
        exact absurd hall (by decide)
    rw [← hlooks, hname, hdots]
    refine looksIpv4_congr ?_
    rw [← Text.map_isDigit_lowerCase hdotted, List.map_map]
    refine List.map_congr_left fun c _ => ?_
    rw [Function.comp_apply]
    split
    · next hdot =>
      simp only [isDot, Bool.or_eq_true, decide_eq_true_eq] at hdot
      rcases hdot with ((rfl | rfl) | rfl) | rfl <;> decide
    · rfl
  · push Not at hascii
    obtain ⟨label, hlabel, hascii⟩ := hascii
    have hsub : (writtenLabel label).Sublist name := by
      rw [hname]
      exact sublist_intercalate '.' (List.mem_map_of_mem hlabel)
    have hcount := (hsub.countP_le (p := fun c => !c.isDigit)).trans (countP_le_of_looksIpv4 hlooks)
    have hmark : mark.countP (fun c => !c.isDigit) = 4 := by decide
    rw [writtenLabel, if_neg hascii, List.countP_append, hmark] at hcount
    omega

end Encode

end Idna

end ServiceDoc.Uri

import Mathlib
import ServiceDoc.Proofs.Text.Words
import ServiceDoc.Proofs.Uri.Authority
/-!
# Characters of labels

Of the ASCII characters, labels hold small letters, digits and hyphens only. A label that is written
in Punycode already holds others as little: whatever stands before its last hyphen is in the label
in full, and what follows are digits of Punycode. So the name of a host, as the network writes it,
has the characters of names only (`Idna.isNameChar_of_mem_encode?`).
-/

namespace ServiceDoc

/-! ## Tables -/

namespace CodeSet

open String (ofList)

theorem exists_mem_of_search {ranges : Array (Nat × Nat)} {n lo hi : Nat}
    (h : search ranges n lo hi = true) : ∃ r ∈ ranges, r.1 ≤ n ∧ n ≤ r.2 := by
  fun_induction search ranges n lo hi with
  | case1 => cases h
  | case2 lo hi hlt a b hget hbelow ih => exact ih h
  | case3 lo hi hlt a b hget hbelow habove ih => exact ih h
  | case4 lo hi hlt a b hget hbelow habove =>
      exact ⟨(a, b), Array.mem_of_getElem? hget, Nat.le_of_not_lt hbelow, Nat.le_of_not_lt habove⟩
  | case5 => cases h

/-- The number that a list of characters writes. -/
def wordNumber (word : List Char) : Nat := word.foldl (fun n c => 16 * n + digit c) 0

/-- The range that a list of characters writes. -/
def wordRange (word : List Char) : Nat × Nat :=
  match word.splitOn '-' with
  | [a, b] => (wordNumber a, wordNumber b)
  | _ => (wordNumber word, wordNumber word)

theorem range_ofList (word : List Char) : range (ofList word) = wordRange word := by
  have hparts : (ofList word).splitOn "-" = (word.splitOn '-').map ofList := by
    simpa using splitOn_singleton '-' (ofList word)
  rw [range, wordRange, hparts]
  match word.splitOn '-' with
  | [] => simp [number, wordNumber]
  | [_] => simp [number, wordNumber]
  | [_, _] => simp [number, wordNumber]
  | _ :: _ :: _ :: _ => simp [number, wordNumber]

theorem forall_mem_range_nil (p : Nat × Nat → Prop) : ∀ word ∈ words [], p (range word) :=
  nofun

theorem forall_mem_range_cons {p : Nat × Nat → Prop} {line : List Char} {lines : List String}
    (hline : ∀ word ∈ line.splitOn ' ', p (wordRange word))
    (hlines : ∀ word ∈ words lines, p (range word)) :
    ∀ word ∈ words (ofList line :: lines), p (range word) := by
  rw [words, List.flatMap_cons, List.forall_mem_append]
  refine ⟨?_, hlines⟩
  rw [splitOn_blank, String.toList_ofList, List.forall_mem_map]
  intro word hword
  rw [range_ofList]
  exact hline word hword

theorem exists_range_of_contains {p : Nat × Nat → Prop} {lines : List String}
    (h : ∀ word ∈ words lines, p (range word)) {n : Nat}
    (hcontains : (ofLines lines).contains n = true) : ∃ r, p r ∧ r.1 ≤ n ∧ n ≤ r.2 := by
  obtain ⟨r, hr, hrange⟩ := exists_mem_of_search hcontains
  rw [ofLines, List.mem_toArray] at hr
  obtain ⟨word, hword, rfl⟩ := List.mem_map.1 hr
  exact ⟨_, h word hword, hrange⟩

end CodeSet

namespace Uri

theorem isNameChar_of_toNat {c : Char}
    (h : c.toNat = 0x2D ∨ 0x30 ≤ c.toNat ∧ c.toNat ≤ 0x39 ∨ 0x61 ≤ c.toNat ∧ c.toNat ≤ 0x7A) :
    isNameChar c = true := by
  have hall : ∀ n < 0x80, n = 0x2D ∨ 0x30 ≤ n ∧ n ≤ 0x39 ∨ 0x61 ≤ n ∧ n ≤ 0x7A →
      isNameChar (Char.ofNat n) = true := by
    decide
  have hchar := hall c.toNat (by omega) h
  rwa [Char.ofNat_toNat] at hchar

namespace Label

/-- Whether a range of the table lies outside ASCII, or is one of the three that do not. -/
def isValidRange (r : Nat × Nat) : Bool :=
  r = (0x2D, 0x2D) || r = (0x30, 0x39) || r = (0x61, 0x7A) || 0x80 ≤ r.1

/-- The valid ASCII characters are the hyphen, digits and small letters. -/
theorem of_contains_validCodes {n : Nat} (h : validCodes.contains n = true) :
    n = 0x2D ∨ 0x30 ≤ n ∧ n ≤ 0x39 ∨ 0x61 ≤ n ∧ n ≤ 0x7A ∨ 0x80 ≤ n := by
  have hranges : ∃ r, isValidRange r = true ∧ r.1 ≤ n ∧ n ≤ r.2 := by
    refine CodeSet.exists_range_of_contains ?_ h
    dsimp only
    repeat' first
      | refine CodeSet.forall_mem_range_cons (p := (isValidRange · = true)) (by decide +kernel) ?_
      | exact CodeSet.forall_mem_range_nil (isValidRange · = true)
  obtain ⟨⟨a, b⟩, hr, hlow, hhigh⟩ := hranges
  simp only [isValidRange, Bool.or_eq_true, decide_eq_true_eq, Prod.mk.injEq] at hr hlow hhigh
  omega

theorem isNameChar_of_isPlaced {before after : List Char} {c : Char}
    (h : isPlaced before c after = true) (hascii : c.toNat < 0x80) : isNameChar c = true := by
  have hne (d : Char) (hd : 0x80 ≤ d.toNat) : c ≠ d := by
    rintro rfl
    omega
  have hlow (d : Char) (hd : 0x80 ≤ d.toNat) : ¬ d ≤ c := by
    intro hle
    have hnat : d.toNat ≤ c.toNat := UInt32.le_iff_toNat_le.1 hle
    omega
  have harabic : isArabicDigit c = false := by simp [isArabicDigit, hlow '\u0660' (by decide)]
  have hpersian : isPersianDigit c = false := by simp [isPersianDigit, hlow '\u06f0' (by decide)]
  rw [isPlaced] at h
  by_cases hvalid : validCodes.contains c.toNat
  · have hcode := of_contains_validCodes hvalid
    exact isNameChar_of_toNat (by omega)
  · rw [if_neg hvalid, if_neg (hne _ (by decide)), if_neg (hne _ (by decide)),
      if_neg (hne _ (by decide)), if_neg (hne _ (by decide)),
      if_neg (by simp [hne '\u05f3' (by decide), hne '\u05f4' (by decide)]),
      if_neg (hne _ (by decide)), harabic, hpersian, if_neg Bool.false_ne_true,
      if_neg Bool.false_ne_true] at h
    cases h

theorem exists_isPlaced_of_mem {before cs : List Char} (h : allPlaced before cs = true) {c : Char}
    (hc : c ∈ cs) : ∃ b r, isPlaced b c r = true := by
  induction cs generalizing before with
  | nil => simp at hc
  | cons d cs ih =>
      rw [allPlaced, Bool.and_eq_true] at h
      rcases List.mem_cons.1 hc with rfl | hc
      · exact ⟨before, cs, h.1⟩
      · exact ih h.2 hc

/-- The ASCII characters of a label are characters of names. -/
theorem isNameChar_of_mem {cs : List Char} (h : isLabel cs = true) {c : Char} (hc : c ∈ cs)
    (hascii : c.toNat < 0x80) : isNameChar c = true := by
  simp only [isLabel, Bool.and_eq_true] at h
  obtain ⟨b, r, hplaced⟩ := exists_isPlaced_of_mem h.1.1.2 hc
  exact isNameChar_of_isPlaced hplaced hascii

end Label

/-! ## Reading Punycode -/

namespace Punycode

theorem isNameChar_digitChar {d : Nat} (h : d < 36) : isNameChar (digitChar d) = true := by
  have hall : ∀ d ∈ List.range 36, isNameChar (digitChar d) = true := by decide
  exact hall d (List.mem_range.2 h)

theorem isNameChar_of_digitValue? {c : Char} {d : Nat} (h : digitValue? c = some d) :
    isNameChar c = true := by
  by_cases hupper : c.isUpper
  · simp [isNameChar, Char.isAlphanum, Char.isAlpha, hupper]
  · rw [digitValue?, Char.toLower_eq_of_not_isUpper hupper] at h
    refine isNameChar_of_toNat ?_
    split_ifs at h with hletter hdigit
    · exact .inr (.inr hletter)
    · exact .inr (.inl hdigit)

/-- The digits of a number are the beginning of what is read. -/
theorem exists_of_readDigits {bias place weight n : Nat} {cs r : List Char}
    (h : readDigits bias place weight cs = some (n, r)) :
    ∃ ds, cs = ds ++ r ∧ ∀ c ∈ ds, isNameChar c = true := by
  induction cs generalizing place weight n with
  | nil => simp [readDigits] at h
  | cons c cs ih =>
      rw [readDigits] at h
      split at h
      · cases h
      · next d hd =>
        have hc := isNameChar_of_digitValue? hd
        split at h
        · obtain ⟨-, rfl⟩ := Prod.mk.inj (Option.some.inj h)
          exact ⟨[c], rfl, by simpa using hc⟩
        · obtain ⟨⟨m, s⟩, hm, hs⟩ := Option.map_eq_some_iff.1 h
          obtain ⟨-, rfl⟩ := Prod.mk.inj hs
          obtain ⟨ds, rfl, hds⟩ := ih hm
          exact ⟨c :: ds, rfl, List.forall_mem_cons.2 ⟨hc, hds⟩⟩

theorem isNameChar_of_readNumbers {isFirst : Bool} {bias size : Nat} {cs : List Char}
    {ns : List Nat} (h : readNumbers isFirst bias size cs = some ns) :
    ∀ c ∈ cs, isNameChar c = true := by
  fun_induction readNumbers isFirst bias size cs generalizing ns with
  | case1 => simp_all
  | case2 => cases h
  | case3 isFirst bias size cs hempty n r hread ih =>
      obtain ⟨ms, hms, -⟩ := Option.map_eq_some_iff.1 h
      obtain ⟨ds, rfl, hds⟩ := exists_of_readDigits hread
      rw [List.forall_mem_append]
      exact ⟨hds, ih hms⟩

theorem mem_of_insertGaps {text full : List Char} {code place : Nat} {ns : List Nat}
    (h : insertGaps text code place ns = some full) {c : Char} (hc : c ∈ text) : c ∈ full := by
  induction ns generalizing text code place with
  | nil =>
      obtain rfl := Option.some.inj h
      exact hc
  | cons n ns ih =>
      rw [insertGaps] at h
      split at h
      · refine ih h ?_
        have hle : (place + n) % (text.length + 1) ≤ text.length :=
          Nat.le_of_lt_succ (Nat.mod_lt _ (Nat.succ_pos _))
        exact (List.mem_insertIdx hle).2 (.inr hc)
      · cases h

/-- A text in Punycode is made of characters of the text in full, hyphens and digits. -/
theorem mem_of_decode? {cs full : List Char} (h : decode? cs = some full) {c : Char}
    (hc : c ∈ cs) : c ∈ full ∨ isNameChar c = true := by
  change ((readNumbers true firstBias (splitLast '-' cs).1.length (splitLast '-' cs).2).bind
    fun ns => insertGaps (splitLast '-' cs).1 0x80 0 ns) = some full at h
  obtain ⟨ns, hns, hfull⟩ := Option.bind_eq_some_iff.1 h
  rcases mem_splitLast '-' hc with rfl | hbase | hdigit
  · exact .inr (by decide)
  · exact .inl (mem_of_insertGaps hfull hbase)
  · exact .inr (isNameChar_of_readNumbers hns c hdigit)

end Punycode

/-! ## Names -/

namespace Idna

theorem isNameChar_of_mem_encodeLabel? {label written : List Char}
    (h : encodeLabel? label = some written) {c : Char} (hc : c ∈ written) :
    isNameChar c = true := by
  rw [encodeLabel?] at h
  split at h
  · cases h
  next full hfull =>
  obtain ⟨hvalid, hwritten⟩ := Option.ite_none_right_eq_some.1 h
  have hlabel := (Bool.and_eq_true_iff.1 hvalid).1
  obtain rfl := Option.some.inj hwritten
  rw [fullLabel?] at hfull
  by_cases hascii : isAscii label
  · rw [if_pos hascii] at hc
    have hlt : c.toNat < 0x80 := by simpa using List.all_eq_true.1 hascii c hc
    split at hfull
    · next hmark =>
      have htake : label.take 4 = mark := by simpa using (Bool.and_eq_true_iff.1 hmark).2
      split at hfull
      · cases hfull
      · rw [← List.take_append_drop 4 label, htake, List.mem_append] at hc
        rcases hc with hc | hc
        · exact List.all_eq_true.1 (by decide : mark.all isNameChar = true) c hc
        · rcases Punycode.mem_of_decode? hfull hc with hmem | hname
          · exact Label.isNameChar_of_mem hlabel hmem hlt
          · exact hname
    · obtain rfl := Option.some.inj hfull
      exact Label.isNameChar_of_mem hlabel hc hlt
  · rw [if_neg hascii, List.mem_append] at hc
    rw [if_neg (by simp [hascii])] at hfull
    obtain rfl := Option.some.inj hfull
    rcases hc with hc | hc
    · exact List.all_eq_true.1 (by decide : mark.all isNameChar = true) c hc
    · rcases mem_punycode hc with ⟨hmem, hlt⟩ | rfl | ⟨d, hd, rfl⟩
      · exact Label.isNameChar_of_mem hlabel hmem hlt
      · decide
      · exact Punycode.isNameChar_digitChar hd

theorem exists_mem_of_mapM {α β : Type} {f : α → Option β} {xs : List α} {ys : List β}
    (h : xs.mapM f = some ys) {y : β} (hy : y ∈ ys) : ∃ x ∈ xs, f x = some y := by
  induction xs generalizing ys with
  | nil =>
      obtain rfl : ys = [] := by simpa using h.symm
      simp at hy
  | cons x xs ih =>
      rw [List.mapM_cons] at h
      obtain ⟨z, hz, h⟩ := Option.bind_eq_some_iff.1 h
      obtain ⟨rest, hrest, h⟩ := Option.bind_eq_some_iff.1 h
      obtain rfl := Option.some.inj h
      rcases List.mem_cons.1 hy with rfl | hy
      · exact ⟨x, List.mem_cons_self, hz⟩
      · obtain ⟨x', hx', hfx'⟩ := ih hrest hy
        exact ⟨x', List.mem_cons_of_mem x hx', hfx'⟩

/-- The name of a host, as the network writes it, has the characters of names only. -/
theorem isNameChar_of_mem_encode? {host name : List Char} (h : encode? host = some name) {c : Char}
    (hc : c ∈ name) : isNameChar c = true := by
  rw [encode?] at h
  split at h
  · cases h
  · generalize splitLabels (Text.lowerCase host) = labels at h
    obtain ⟨labels, isClosed⟩ := labels
    dsimp only at h
    split at h
    · cases h
    next written hwritten =>
    split at h
    · cases h
    obtain rfl := Option.some.inj h
    have hmem : c = '.' ∨ c ∈ ['.'].intercalate written := by
      split at hc
      · rcases List.mem_append.1 hc with hc | hc
        · exact .inr hc
        · exact .inl (List.mem_singleton.1 hc)
      · exact .inr hc
    rcases hmem with rfl | hmem
    · decide
    · rcases mem_intercalate hmem with rfl | ⟨w, hw, hcw⟩
      · decide
      · obtain ⟨label, -, hlabel⟩ := exists_mem_of_mapM hwritten hw
        exact isNameChar_of_mem_encodeLabel? hlabel hcw

end Idna

end Uri

end ServiceDoc

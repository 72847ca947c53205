import Mathlib
import ServiceDoc.Text.Numeral
/-!
# Numerals that are read again

A numeral that can be read writes a number of at most 4300 digits. Such a number, written in decimal
digits, is read as itself.
-/

namespace ServiceDoc.Text

/-! ## Digits -/

theorem digitValue?_of_isDigit {c : Char} (h : c.isDigit = true) :
    digitValue? c = some (c.toNat - 48) := by
  rw [digitValue?, if_pos h]

theorem lt_of_digitValue? {c : Char} {d : Nat} (h : digitValue? c = some d) : d < 10 := by
  rw [digitValue?] at h
  split at h
  · next hdigit =>
    have hval : c.toNat ≤ 57 := by
      simp only [Char.isDigit, Bool.and_eq_true, decide_eq_true_eq,
        UInt32.le_iff_toNat_le] at hdigit
      exact hdigit.2
    rw [← Option.some.inj h]
    omega
  · obtain ⟨run, -, hrun⟩ := Option.map_eq_some_iff.1 h
    rw [← hrun]
    exact Nat.mod_lt _ (by decide)

theorem forall_lt_of_numeralDigits {acc ds : List Nat} {cs : List Char}
    (hacc : ∀ d ∈ acc, d < 10) (h : numeralDigits acc cs = some ds) : ∀ d ∈ ds, d < 10 := by
  fun_induction numeralDigits acc cs with
  | case1 acc =>
      rw [← Option.some.inj h]
      exact fun d hd => hacc d (List.mem_reverse.1 hd)
  | case2 => cases h
  | case3 acc c r d hd _ ih =>
      exact ih (List.forall_mem_cons.2 ⟨lt_of_digitValue? hd, hacc⟩) h
  | case4 => cases h
  | case5 acc c r d _ hd ih =>
      exact ih (List.forall_mem_cons.2 ⟨lt_of_digitValue? hd, hacc⟩) h
  | case6 => cases h

theorem numeralDigits_of_isDigit {cs : List Char} (h : ∀ c ∈ cs, c.isDigit = true)
    (acc : List Nat) :
    numeralDigits acc cs = some (acc.reverse ++ cs.map fun c => c.toNat - 48) := by
  induction cs generalizing acc with
  | nil => simp [numeralDigits]
  | cons c cs ih =>
      rw [List.forall_mem_cons] at h
      have hne : c ≠ '_' := by
        rintro rfl
        exact absurd h.1 (by decide)
      rw [numeralDigits, digitValue?_of_isDigit h.1]
      · simp [ih h.2]
      · exact fun _ _ heq => absurd heq hne

/-! ## Numbers -/

theorem foldl_lt_pow {ds : List Nat} (h : ∀ d ∈ ds, d < 10) (n : Nat) :
    ds.foldl (fun n d => 10 * n + d) n < (n + 1) * 10 ^ ds.length := by
  induction ds generalizing n with
  | nil => simp
  | cons d ds ih =>
      rw [List.forall_mem_cons] at h
      calc (d :: ds).foldl (fun n d => 10 * n + d) n
          < (10 * n + d + 1) * 10 ^ ds.length := ih h.2 (10 * n + d)
        _ ≤ ((n + 1) * 10) * 10 ^ ds.length := Nat.mul_le_mul_right _ (by omega)
        _ = (n + 1) * 10 ^ (d :: ds).length := by
            rw [List.length_cons, Nat.pow_succ', Nat.mul_assoc]

/-- The decimal digits of a number that a numeral writes are as many as can be read. -/
theorem length_toDigits_of_unsignedNumeral? {cs : List Char} {n : Nat}
    (h : unsignedNumeral? cs = some n) : (Nat.toDigits 10 n).length ≤ 4300 := by
  rw [unsignedNumeral?] at h
  split at h
  · next d ds hds =>
    obtain ⟨hlength, hn⟩ := Option.ite_none_right_eq_some.1 h
    have hlt := foldl_lt_pow (forall_lt_of_numeralDigits (by simp) hds) 0
    rw [Option.some.inj hn, Nat.zero_add, Nat.one_mul] at hlt
    exact ((Nat.length_toDigits_le_iff (by decide) (by simp)).2 hlt).trans hlength
  · cases h

theorem unsignedNumeral?_toDigits {n : Nat} (h : (Nat.toDigits 10 n).length ≤ 4300) :
    unsignedNumeral? (Nat.toDigits 10 n) = some n := by
  have hdigit : ∀ c ∈ Nat.toDigits 10 n, c.isDigit = true := fun c hc =>
    Nat.isDigit_of_mem_toDigits (by decide) (by decide) hc
  have hvalue : (Nat.toDigits 10 n).foldl (fun n c => 10 * n + (c.toNat - 48)) 0 = n :=
    Nat.ofDigitChars_ten_toDigits
  have hne : Nat.toDigits 10 n ≠ [] := Nat.toDigits_ne_nil
  generalize Nat.toDigits 10 n = cs at h hdigit hvalue hne
  obtain ⟨c, cs, rfl⟩ := List.exists_cons_of_ne_nil hne
  rw [unsignedNumeral?, numeralDigits_of_isDigit hdigit, List.reverse_nil, List.nil_append,
    List.map_cons]
  dsimp only
  rw [List.length_cons, List.length_map, ← List.length_cons, if_pos h, List.foldl_cons,
    List.foldl_map]
  exact congrArg some hvalue

theorem length_toDigits_of_numeral? {cs : List Char} {n : Int} (h : numeral? cs = some n) :
    (Nat.toDigits 10 n.natAbs).length ≤ 4300 := by
  rw [numeral?] at h
  split at h
  · obtain ⟨_, hbind, rfl⟩ := Option.map_eq_some_iff.1 h
    obtain ⟨m, hm, hpure⟩ := Option.bind_eq_some_iff.1 hbind
    rw [← Option.some.inj hpure, Int.natAbs_neg, Int.natAbs_natCast]
    exact length_toDigits_of_unsignedNumeral? hm
  · obtain ⟨m, hm, rfl⟩ := Option.map_eq_some_iff.1 h
    exact length_toDigits_of_unsignedNumeral? hm
  · obtain ⟨m, hm, rfl⟩ := Option.map_eq_some_iff.1 h
    exact length_toDigits_of_unsignedNumeral? hm

theorem isWhite_of_isDigit {c : Char} (h : c.isDigit = true) : isWhite c = false := by
  have hrange : 48 ≤ c.toNat ∧ c.toNat ≤ 57 := by
    simpa [Char.isDigit, UInt32.le_iff_toNat_le] using h
  have hblank : c ≠ ' ' := by
    rintro rfl
    exact absurd h (by decide)
  rw [isWhite, if_pos (by omega)]
  simp only [hblank, decide_false, Bool.false_or, Bool.or_eq_false_iff, Bool.and_eq_false_iff,
    decide_eq_false_iff_not]
  omega

/-- A text that ends and begins with something else has no white space to take away. -/
theorem trim_eq_self {cs : List Char} (h : ∀ c ∈ cs, isWhite c = false) :
    ((cs.dropWhile isWhite).reverse.dropWhile isWhite).reverse = cs := by
  have hself {s : List Char} (hs : ∀ c ∈ s, isWhite c = false) : s.dropWhile isWhite = s := by
    cases s with
    | nil => rfl
    | cons c s => rw [List.dropWhile_cons_of_neg (by simp [hs c List.mem_cons_self])]
  rw [hself h, hself fun c hc => h c (List.mem_reverse.1 hc), List.reverse_reverse]

theorem toList_toString_ofNat (n : Nat) : (toString (Int.ofNat n)).toList = Nat.toDigits 10 n := by
  simp [Int.repr, Nat.toList_repr]

theorem toList_toString_negSucc (n : Nat) :
    (toString (Int.negSucc n)).toList = '-' :: Nat.toDigits 10 (n + 1) := by
  simp [Int.repr, Nat.toList_repr]

theorem isDigit_of_mem_toDigits {n : Nat} {c : Char} (h : c ∈ Nat.toDigits 10 n) :
    c.isDigit = true :=
  Nat.isDigit_of_mem_toDigits (by decide) (by decide) h

theorem isDigit_or_of_mem_toString {n : Int} {c : Char} (h : c ∈ (toString n).toList) :
    c.isDigit = true ∨ c = '-' := by
  cases n with
  | ofNat n =>
      rw [toList_toString_ofNat] at h
      exact .inl (isDigit_of_mem_toDigits h)
  | negSucc n =>
      rw [toList_toString_negSucc, List.mem_cons] at h
      exact h.symm.imp_left isDigit_of_mem_toDigits

theorem numeral?_toString {n : Int} (h : (Nat.toDigits 10 n.natAbs).length ≤ 4300) :
    numeral? (toString n).toList = some n := by
  cases n with
  | ofNat n =>
      have htrim := trim_eq_self fun c hc =>
        isWhite_of_isDigit (isDigit_of_mem_toDigits (n := n) hc)
      rw [numeral?, toList_toString_ofNat, htrim]
      split
      · next heq =>
        exact absurd (isDigit_of_mem_toDigits (heq ▸ List.mem_cons_self : '-' ∈ _)) (by decide)
      · next heq =>
        exact absurd (isDigit_of_mem_toDigits (heq ▸ List.mem_cons_self : '+' ∈ _)) (by decide)
      · exact congrArg (Option.map Int.ofNat) (unsignedNumeral?_toDigits h)
  | negSucc n =>
      have hwhite : ∀ c ∈ '-' :: Nat.toDigits 10 (n + 1), isWhite c = false := by
        rw [List.forall_mem_cons]
        exact ⟨by decide, fun c hc => isWhite_of_isDigit (isDigit_of_mem_toDigits hc)⟩
      have hread : unsignedNumeral? (Nat.toDigits 10 (n + 1)) = some (n + 1) :=
        unsignedNumeral?_toDigits h
      rw [numeral?, toList_toString_negSucc, trim_eq_self hwhite]
      simp only [hread]
      rfl

end ServiceDoc.Text

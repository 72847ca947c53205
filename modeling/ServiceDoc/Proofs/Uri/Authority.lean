import Mathlib
import ServiceDoc.Proofs.Text.Numeral
import ServiceDoc.Proofs.Uri.Idna
import ServiceDoc.Proofs.Uri.Percent
import ServiceDoc.Uri.Basic
/-!
# Authorities that are read again

The user information, the host and the port of an address, as they stand in its text. Where the host
is a name of letters, digits and a few marks, the separators of an authority are not among its
characters, so it is found again; and what was read as such a name is read as itself
(`readHost_readHost`).
-/

namespace ServiceDoc.Uri

/-! ## Splitting -/

section Span

variable {p : Char → Bool} {s r : List Char}

/-- A scan stops where the characters that it passes over end. -/
theorem span_append (hs : ∀ c ∈ s, p c = true) (hr : ∀ c ∈ r.head?, p c = false) :
    (s ++ r).span p = (s, r) := by
  rw [List.span_eq_takeWhile_dropWhile, List.takeWhile_append_of_pos hs,
    List.dropWhile_append_of_pos hs]
  cases r with
  | nil => simp
  | cons c r =>
      have hc : ¬ p c = true := by simp [hr c rfl]
      rw [List.takeWhile_cons_of_neg hc, List.dropWhile_cons_of_neg hc, List.append_nil]

theorem span_eq_self (hs : ∀ c ∈ s, p c = true) : s.span p = (s, []) := by
  simpa using span_append (r := []) hs (by simp)

end Span

theorem splitLast_append_cons {separator : Char} {t : List Char} (h : separator ∉ t)
    (s : List Char) : splitLast separator (s ++ separator :: t) = (s, t) := by
  have hspan : (s ++ separator :: t).reverse.span (· ≠ separator) =
      (t.reverse, separator :: s.reverse) := by
    rw [List.reverse_append, List.reverse_cons, List.append_assoc]
    refine span_append (fun c hc => ?_) (by simp)
    have hne : c ≠ separator := fun heq => h (heq ▸ List.mem_reverse.1 hc)
    simpa using hne
  rw [splitLast, hspan]
  simp only [List.reverse_reverse]

theorem splitLast_of_notMem {separator : Char} {t : List Char} (h : separator ∉ t) :
    splitLast separator t = ([], t) := by
  have hspan : t.reverse.span (· ≠ separator) = (t.reverse, []) := by
    refine span_eq_self fun c hc => ?_
    have hne : c ≠ separator := fun heq => h (heq ▸ List.mem_reverse.1 hc)
    simpa using hne
  rw [splitLast, hspan]

/-- A text is split at the last separator, or there is none in it. -/
theorem splitLast_cases (separator : Char) (cs : List Char) :
    (separator ∉ cs ∧ splitLast separator cs = ([], cs)) ∨
      ∃ s t, cs = s ++ separator :: t ∧ separator ∉ t ∧ splitLast separator cs = (s, t) := by
  by_cases hmem : separator ∈ cs
  · obtain ⟨t, s, hcs, ht⟩ := List.eq_append_cons_of_mem (List.mem_reverse.2 hmem)
    have hsplit : cs = s.reverse ++ separator :: t.reverse := by
      rw [← List.reverse_reverse cs, hcs]
      simp
    have hlast : separator ∉ t.reverse := by simpa using ht
    exact .inr ⟨_, _, hsplit, hlast, hsplit ▸ splitLast_append_cons hlast s.reverse⟩
  · exact .inl ⟨hmem, splitLast_of_notMem hmem⟩

theorem mem_splitLast (separator : Char) {c : Char} {cs : List Char} (h : c ∈ cs) :
    c = separator ∨ c ∈ (splitLast separator cs).1 ∨ c ∈ (splitLast separator cs).2 := by
  rcases splitLast_cases separator cs with ⟨-, heq⟩ | ⟨s, t, rfl, -, heq⟩
  · rw [heq]
    exact .inr (.inr h)
  · rw [heq]
    rcases List.mem_append.1 h with h | h
    · exact .inr (.inl h)
    · exact (List.mem_cons.1 h).imp_right .inr

theorem of_mem_splitLast_snd {separator c : Char} {cs : List Char}
    (h : c ∈ (splitLast separator cs).2) : c ∈ cs ∧ c ≠ separator := by
  rcases splitLast_cases separator cs with ⟨hnone, heq⟩ | ⟨s, t, rfl, hnone, heq⟩
  · rw [heq] at h
    exact ⟨h, fun hc => hnone (hc ▸ h)⟩
  · rw [heq] at h
    exact ⟨List.mem_append_right s (List.mem_cons_of_mem separator h), fun hc => hnone (hc ▸ h)⟩

/-! ## Hosts -/

/-- The characters of host names as the network writes them. -/
def isNameChar (c : Char) : Bool := c.isAlphanum || c = '-' || c = '.' || c = '_'

theorem isHostSafe_of_isNameChar {c : Char} (h : isNameChar c = true) : isHostSafe c = true := by
  have hunreserved : isUnreserved c = true := by
    rw [isUnreserved, ← isNameChar, h, Bool.true_or]
  rw [isHostSafe, hunreserved, Bool.true_or, Bool.true_or]

theorem toNat_of_isNameChar {c : Char} (h : isNameChar c = true) :
    0x20 < c.toNat ∧ c.toNat < 0x7F := by
  simp only [isNameChar, Char.isAlphanum, Char.isAlpha, Char.isUpper, Char.isLower, Char.isDigit,
    Bool.or_eq_true, Bool.and_eq_true, decide_eq_true_eq, UInt32.le_iff_toNat_le] at h
  rcases h with ((((h | h) | h) | rfl) | rfl) | rfl
  · change 65 ≤ c.toNat ∧ c.toNat ≤ 90 at h
    omega
  · change 97 ≤ c.toNat ∧ c.toNat ≤ 122 at h
    omega
  · change 48 ≤ c.toNat ∧ c.toNat ≤ 57 at h
    omega
  all_goals decide

theorem colon_mem_of_isIpv6Groups {cs : List Char} (h : isIpv6Groups cs = true) : ':' ∈ cs := by
  by_contra hcolon
  have hparts : splitAt ':' cs = [cs] := List.splitOn_eq_singleton hcolon
  simp [isIpv6Groups, hextets?, hparts] at h

theorem colon_mem_of_isIpv6 {cs : List Char} (h : isIpv6 cs = true) : ':' ∈ cs := by
  rw [isIpv6] at h
  split at h
  · cases h
  · have hprefix := List.takeWhile_subset (fun c => decide (c ≠ '%')) (l := cs)
    rw [List.span_eq_takeWhile_dropWhile] at h
    split at h
    · next heq => 
      obtain ⟨rfl, -⟩ := Prod.mk.inj heq
      exact hprefix (colon_mem_of_isIpv6Groups h)
    · next heq =>
      obtain ⟨rfl, -⟩ := Prod.mk.inj heq
      rw [Bool.and_eq_true] at h
      exact hprefix (colon_mem_of_isIpv6Groups h.2)

section Name

variable {host : List Char} (hname : ∀ c ∈ host, isNameChar c = true)

include hname

theorem notMem_of_isNameChar {c : Char} (hc : isNameChar c = false) : c ∉ host := by
  intro hmem
  simp [hname c hmem] at hc

theorem readHost_eq_self (hupper : ∀ c ∈ host, c.isUpper = false)
    (hlooks : looksIpv4 host = true → isIpv4 host = true) : readHost host = .ok host := by
  have hbracket : host.head? ≠ some '[' := by
    intro hhead
    exact notMem_of_isNameChar hname (c := '[') (by decide) (List.mem_of_mem_head? hhead)
  have hascii : host.all (fun c => c.toNat < 0x80) = true :=
    List.all_eq_true.2 fun c hc =>
      decide_eq_true (Nat.lt_trans (toNat_of_isNameChar (hname c hc)).2 (by decide))
  have hlower : host.map Char.toLower = host := by
    conv_rhs => rw [← List.map_id host]
    exact List.map_congr_left fun c hc => Char.toLower_eq_of_not_isUpper (by simp [hupper c hc])
  have hsafe : percentEncode isHostSafe host = host :=
    percentEncode_eq_self fun c hc => isHostSafe_of_isNameChar (hname c hc)
  rw [readHost]
  by_cases hempty : host.isEmpty
  · rw [if_pos hempty, List.isEmpty_iff.1 hempty]
  · rw [if_neg hempty]
    by_cases hlook : looksIpv4 host = true
    · rw [if_pos hlook, if_pos (hlooks hlook)]
    · rw [if_neg hlook, if_neg (by simp [hbracket]), if_pos hascii, hlower, hsafe]

/-- A name that was read is read as itself. -/
theorem readHost_readHost {raw : List Char} (h : readHost raw = .ok host) :
    readHost host = .ok host := by
  rw [readHost] at h
  split at h
  · obtain rfl := Except.ok.inj h
    rfl
  next hempty =>
  split at h
  · next hlook =>
    split at h
    · next hnumeric =>
      obtain rfl := Except.ok.inj h
      rw [readHost, if_neg hempty, if_pos hlook, if_pos hnumeric]
    · cases h
  next hlook =>
  split at h
  · split at h
    · next hnumeric =>
      obtain rfl := Except.ok.inj h
      exact absurd (colon_mem_of_isIpv6 hnumeric) (notMem_of_isNameChar hname (by decide))
    · cases h
  split at h
  · have hraw := Except.ok.inj h
    have hpercent : '%' ∉ percentEncode isHostSafe (raw.map Char.toLower) := by
      rw [hraw]
      exact notMem_of_isNameChar hname (by decide)
    rw [percentEncode_eq_self_of_notMem hpercent] at hraw
    have hlower : looksIpv4 host = looksIpv4 raw := by
      refine looksIpv4_congr ?_
      rw [← hraw, List.map_map]
      exact List.map_congr_left fun c _ => Text.LowerCase.isDigit_toLower c
    refine readHost_eq_self hname ?_ fun hlooks => absurd (hlower ▸ hlooks) hlook
    rw [← hraw, List.forall_mem_map]
    exact fun c _ => Char.isUpper_toLower_eq_false c
  · split at h
    · next name hencode =>
      obtain rfl := Except.ok.inj h
      exact readHost_eq_self hname (fun c => Idna.isUpper_of_mem_encode? hencode)
        fun hlooks => absurd (Idna.looksIpv4_of_encode? hencode hlooks) hlook
    · cases h

end Name

/-! ## Hosts and ports -/

/-- A host without brackets ends at the colon of the port, if there is one. -/
theorem splitHost_append {host port : List Char} (hcolon : ':' ∉ host)
    (hbracket : host.head? ≠ some '[') (hport : ∀ c ∈ port.head?, c = ':') :
    splitHost (host ++ port) = (host, port.tail) := by
  have hspan : (host ++ port).span (· ≠ ':') = (host, port) := by
    refine span_append (fun c hc => ?_) fun c hc => by simp [hport c hc]
    have hne : c ≠ ':' := fun heq => hcolon (heq ▸ hc)
    simpa using hne
  have hopen (r : List Char) : host ++ port ≠ '[' :: r := by
    intro heq
    cases host with
    | nil =>
        rw [List.nil_append] at heq
        exact absurd (hport '[' (by rw [heq, List.head?_cons]; rfl)) (by decide)
    | cons c host =>
        rw [List.cons_append, List.cons.injEq] at heq
        exact hbracket (by rw [heq.1, List.head?_cons])
  rw [splitHost]
  · rw [hspan]
    cases port with
    | nil => rfl
    | cons c port =>
        obtain rfl := hport c rfl
        rfl
  · exact fun r _ _ heq _ => hopen r heq

theorem mem_of_mem_splitHost {cs : List Char} {c : Char} (h : c ∈ (splitHost cs).1) : c ∈ cs := by
  unfold splitHost at h
  split at h
  next host r hsplit =>
  have hhost : c ∈ host := by
    split at h
    · exact h
    · exact h
  split at hsplit
  · next heq =>
    obtain ⟨rfl, -⟩ := Prod.mk.inj hsplit
    rw [List.span_eq_takeWhile_dropWhile] at heq
    obtain ⟨-, hdrop⟩ := Prod.mk.inj heq
    rw [List.mem_reverse, ← hdrop] at hhost
    exact List.mem_reverse.1 ((List.dropWhile_sublist _).subset hhost)
  · rw [List.span_eq_takeWhile_dropWhile] at hsplit
    obtain ⟨rfl, -⟩ := Prod.mk.inj hsplit
    exact (List.takeWhile_sublist _).subset hhost

/-- A host in brackets ends at the last bracket. -/
theorem splitHost_bracket_append {host port : List Char} (hbracket : ']' ∉ port)
    (hport : ∀ c ∈ port.head?, c = ':') :
    splitHost ('[' :: host ++ [']'] ++ port) = ('[' :: host ++ [']'], port.tail) := by
  have hspan : ('[' :: host ++ [']'] ++ port).reverse.span (· ≠ ']') =
      (port.reverse, ']' :: ('[' :: host).reverse) := by
    rw [List.reverse_append, List.reverse_append]
    refine span_append (fun c hc => ?_) (by simp)
    have hne : c ≠ ']' := fun heq => hbracket (heq ▸ List.mem_reverse.1 hc)
    simpa using hne
  unfold splitHost
  rw [hspan]
  cases port with
  | nil => simp
  | cons c port =>
      obtain rfl := hport c rfl
      simp

theorem readPort_toString {scheme : List Char} {n : Int}
    (hdigits : (Nat.toDigits 10 n.natAbs).length ≤ 4300) (husual : usualPort? scheme ≠ some n) :
    readPort scheme (toString n).toList = .ok (some n) := by
  have hread := Text.numeral?_toString hdigits
  have hne : (toString n).toList.isEmpty = false := by
    rw [List.isEmpty_eq_false_iff]
    intro hnil
    have hnone : Text.numeral? [] = none := rfl
    rw [hnil, hnone] at hread
    cases hread
  rw [readPort, hne, hread]
  simp [Ne.symm husual]

theorem of_readPort {scheme port : List Char} {n : Int} (h : readPort scheme port = .ok (some n)) :
    (Nat.toDigits 10 n.natAbs).length ≤ 4300 ∧ usualPort? scheme ≠ some n := by
  rw [readPort] at h
  split at h
  · cases h
  · split at h
    · cases h
    · next m hm =>
      have hport := Except.ok.inj h
      split at hport
      · cases hport
      · next husual =>
        obtain rfl := Option.some.inj hport
        exact ⟨Text.length_toDigits_of_numeral? hm, Ne.symm husual⟩

end ServiceDoc.Uri

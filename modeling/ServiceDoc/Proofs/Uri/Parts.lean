import Mathlib
import ServiceDoc.Proofs.Uri.Authority
import ServiceDoc.Proofs.Uri.Path
/-!
# Components that are found again

The text of components falls into the same components when it is read (`Parts.ofText_toList`),
provided that no component holds a separator that would end it early.
-/

namespace ServiceDoc.Uri.Parts

/-- A text that is taken for a scheme where a colon follows. -/
structure IsScheme (scheme : List Char) : Prop where
  begins_alpha : ∃ c s, scheme = c :: s ∧ c.isAlpha = true
  char : ∀ c ∈ scheme, isSchemeChar c = true

theorem isScheme_http : IsScheme "http".toList :=
  ⟨⟨'h', "ttp".toList, rfl, by decide⟩, List.all_eq_true.1 (by decide)⟩

theorem isScheme_https : IsScheme "https".toList :=
  ⟨⟨'h', "ttps".toList, rfl, by decide⟩, List.all_eq_true.1 (by decide)⟩

/-- Components with a scheme and an authority, which hold none of the separators behind them. -/
structure IsSeparated (p : Parts) : Prop where
  scheme : IsScheme p.scheme
  authority_ne : p.authority ≠ []
  authority : ∀ c ∈ p.authority, c ≠ '/' ∧ c ≠ '?' ∧ c ≠ '#'
  rooted : IsRooted p.path
  path : ∀ c ∈ p.path, c ≠ '?' ∧ c ≠ '#'
  query : ∀ q ∈ p.query?, '#' ∉ q

theorem splitScheme_append {scheme : List Char} (h : IsScheme scheme) (r : List Char) :
    splitScheme (scheme ++ ':' :: r) = (scheme, r) := by
  have hcolon : isSchemeChar ':' = false := by decide
  have hspan : (scheme ++ ':' :: r).span isSchemeChar = (scheme, ':' :: r) :=
    span_append h.char (by simpa using hcolon)
  obtain ⟨c, s, rfl, halpha⟩ := h.begins_alpha
  rw [splitScheme, hspan]
  simp only [halpha, if_true]

theorem splitAuthority_append {authority r : List Char}
    (h : ∀ c ∈ authority, c ≠ '/' ∧ c ≠ '?' ∧ c ≠ '#')
    (hr : ∀ c ∈ r.head?, c = '/' ∨ c = '?' ∨ c = '#') :
    splitAuthority ('/' :: '/' :: (authority ++ r)) = (authority, r) := by
  rw [splitAuthority]
  refine span_append (fun c hc => by simpa using h c hc) fun c hc => ?_
  rcases hr c hc with rfl | rfl | rfl <;> decide

/-- The text behind the path. -/
def tail (p : Parts) : List Char :=
  (match p.query? with
    | none => []
    | some q => '?' :: q) ++
    (match p.fragment? with
      | none => []
      | some f => '#' :: f)

theorem toList_eq {p : Parts} (h : p.IsSeparated) :
    p.toList = p.scheme ++ ':' :: '/' :: '/' :: (p.authority ++ (p.path ++ p.tail)) := by
  obtain ⟨c, s, hscheme, -⟩ := h.scheme.begins_alpha
  have hauthority : p.authority.isEmpty = false := by simpa using h.authority_ne
  rw [toList, hauthority, hscheme]
  simp only [List.isEmpty_cons, Bool.false_eq_true, if_false, List.append_assoc, List.cons_append,
    List.nil_append]
  rfl

theorem head?_tail (p : Parts) : ∀ c ∈ p.tail.head?, c = '?' ∨ c = '#' := by
  obtain ⟨_, _, _, query?, fragment?⟩ := p
  cases query? <;> cases fragment? <;> simp [tail]

theorem ofText_toList {p : Parts} (h : p.IsSeparated) : ofText p.toList = p := by
  have hauthority : ∀ c ∈ (p.path ++ p.tail).head?, c = '/' ∨ c = '?' ∨ c = '#' := by
    rcases h.rooted with hnil | hslash
    · rw [hnil]
      exact fun c hc => .inr (head?_tail p c hc)
    · rw [List.head?_append, hslash]
      simp
  have hpath : (p.path ++ p.tail).span (fun c => c ≠ '?' ∧ c ≠ '#') = (p.path, p.tail) := by
    refine span_append (fun c hc => by simpa using h.path c hc) fun c hc => ?_
    rcases head?_tail p c hc with rfl | rfl <;> decide
  rw [toList_eq h, ofText, splitScheme_append h.scheme]
  dsimp only
  rw [splitAuthority_append h.authority hauthority]
  dsimp only
  rw [hpath]
  obtain ⟨scheme, authority, path, query?, fragment?⟩ := p
  have hquery := h.query
  cases query? with
  | none => cases fragment? <;> rfl
  | some q =>
      have hq : ∀ c ∈ q, decide (c ≠ '#') = true := fun c hc =>
        decide_eq_true fun heq => hquery q rfl (heq ▸ hc)
      cases fragment? with
      | none => simp only [tail, List.append_nil, span_eq_self hq]
      | some f =>
          have hspan : (q ++ '#' :: f).span (· ≠ '#') = (q, '#' :: f) :=
            span_append hq (by simp)
          simp only [tail, List.cons_append, hspan]

/-- What follows the scheme of a text with an authority. -/
theorem ofText_append {scheme : List Char} (h : IsScheme scheme) (r : List Char) :
    (ofText (scheme ++ ':' :: '/' :: '/' :: r)).scheme = scheme ∧
      IsRooted (ofText (scheme ++ ':' :: '/' :: '/' :: r)).path := by
  rw [ofText, splitScheme_append h]
  dsimp only
  rw [splitAuthority, List.span_eq_takeWhile_dropWhile, List.span_eq_takeWhile_dropWhile]
  refine ⟨rfl, ?_⟩
  have hstop := List.head?_dropWhile_not (fun c => decide (c ≠ '/' ∧ c ≠ '?' ∧ c ≠ '#')) r
  cases hrest : r.dropWhile fun c => decide (c ≠ '/' ∧ c ≠ '?' ∧ c ≠ '#') with
  | nil => exact .inl rfl
  | cons c rest =>
      rw [hrest] at hstop
      change IsRooted ((c :: rest).takeWhile fun c => c ≠ '?' ∧ c ≠ '#')
      by_cases hc : c = '/'
      · rw [List.takeWhile_cons_of_pos (by simp [hc]), hc]
        exact .inr rfl
      · rw [List.takeWhile_cons_of_neg (by simpa [hc] using hstop)]
        exact .inl rfl

theorem of_mem_authority_ofText {scheme : List Char} (h : IsScheme scheme) {r : List Char}
    {c : Char} (hc : c ∈ (ofText (scheme ++ ':' :: '/' :: '/' :: r)).authority) :
    c ∈ r ∧ c ≠ '/' ∧ c ≠ '?' ∧ c ≠ '#' := by
  rw [ofText, splitScheme_append h] at hc
  dsimp only at hc
  rw [splitAuthority, List.span_eq_takeWhile_dropWhile] at hc
  exact ⟨(List.takeWhile_sublist _).subset hc, by simpa using List.mem_takeWhile_imp hc⟩

end ServiceDoc.Uri.Parts

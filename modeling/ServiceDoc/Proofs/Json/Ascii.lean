import ServiceDoc.Proofs.Json.RoundTrip
import ServiceDoc.Proofs.Text.Ascii
/-!
# Documents are ASCII

A document file is written in ASCII, whatever texts are in the document, and ends with a single line
end: no value ends with one.
-/

namespace ServiceDoc.Json

open Text (IsAscii isAscii_nil isAscii_cons isAscii_append isAscii_flatMap)

/-! ## Leaves -/

theorem toNat_hexDigit_lt (n : Nat) : (hexDigit (n % 16)).toNat < 0x80 := by
  have hall : ∀ d < 16, (hexDigit d).toNat < 0x80 := by
    decide
  exact hall _ (Nat.mod_lt n (by decide))

theorem isAscii_unitEscape (unit : Nat) : IsAscii (unitEscape unit) := by
  simp only [unitEscape, isAscii_cons, toNat_hexDigit_lt, isAscii_nil, and_true]
  decide

theorem isAscii_escape (c : Char) : IsAscii (escape c) := by
  rw [escape]
  split_ifs with _ _ _ _ _ _ _ hplain
  iterate 7 · simp [IsAscii]
  · rw [isAscii_cons]
    exact ⟨by omega, isAscii_nil⟩
  · exact isAscii_flatMap fun unit _ => isAscii_unitEscape unit

theorem isAscii_quoted (s : String) : IsAscii (quoted s) := by
  have hbody : IsAscii (s.toList.flatMap escape) := isAscii_flatMap fun c _ => isAscii_escape c
  simp [quoted, hbody, isAscii_nil]

theorem isAscii_toDigits (n : Nat) : IsAscii (Nat.toDigits 10 n) := by
  intro c hc
  have hdigit := Nat.isDigit_of_mem_toDigits (by decide) (by decide) hc
  exact Nat.lt_of_le_of_lt (Char.isDigit_iff_toNat.1 hdigit).2 (by decide)

theorem isAscii_decimal (n : Int) : IsAscii (decimal n) := by
  cases n with
  | ofNat n => exact isAscii_toDigits n
  | negSucc n =>
      rw [decimal, isAscii_cons]
      exact ⟨by decide, isAscii_toDigits (n + 1)⟩

theorem isAscii_margin (level : Nat) : IsAscii (margin level) := by
  intro c hc
  rw [(List.mem_replicate.1 hc).2]
  decide

theorem getLast?_decimal (n : Int) : ∃ c, (decimal n).getLast? = some c ∧ c ≠ '\n' := by
  have hdigits (n : Nat) : ∃ c, (Nat.toDigits 10 n).getLast? = some c ∧ c ≠ '\n' := by
    refine ⟨_, List.getLast?_eq_some_getLast Nat.toDigits_ne_nil, ?_⟩
    intro heq
    have hdigit := Nat.isDigit_of_mem_toDigits (b := 10) (n := n) (by decide) (by decide)
      (heq ▸ List.getLast_mem Nat.toDigits_ne_nil)
    exact absurd hdigit (by decide)
  cases n with
  | ofNat n => exact hdigits n
  | negSucc n =>
      obtain ⟨c, hc, hne⟩ := hdigits (n + 1)
      exact ⟨c, by rw [decimal, List.getLast?_cons, hc, Option.getD_some], hne⟩

/-! ## Values -/

theorem isAscii_indentedItems {items : List Json}
    (h : ∀ v ∈ items, ∀ level, IsAscii (indented level v)) (level : Nat) :
    IsAscii (indentedItems level items) := by
  induction items with
  | nil => exact isAscii_nil
  | cons v items ih =>
      have hv := h v List.mem_cons_self level
      have hrest := ih fun u hu => h u (List.mem_cons_of_mem v hu)
      cases items with
      | nil => simp [indentedItems, isAscii_margin, hv]
      | cons w items => simp [indentedItems_cons_cons, isAscii_margin, hv, hrest]

theorem isAscii_indentedMembers {members : List (String × Json)}
    (h : ∀ m ∈ members, ∀ level, IsAscii (indented level m.2)) (level : Nat) :
    IsAscii (indentedMembers level members) := by
  induction members with
  | nil => exact isAscii_nil
  | cons m members ih =>
      obtain ⟨k, v⟩ := m
      have hv : IsAscii (indented level v) := h (k, v) List.mem_cons_self level
      have hrest := ih fun u hu => h u (List.mem_cons_of_mem (k, v) hu)
      cases members with
      | nil => simp [indentedMembers, isAscii_margin, isAscii_quoted, hv]
      | cons n members =>
          simp [indentedMembers_cons_cons, isAscii_margin, isAscii_quoted, hv, hrest]

theorem isAscii_indented (v : Json) (level : Nat) : IsAscii (indented level v) := by
  induction v using induction_parts generalizing level with
  | null => simp [indented, isAscii_nil]
  | bool b => cases b <;> simp [indented, isAscii_nil]
  | int n => rw [indented]; exact isAscii_decimal n
  | str s => rw [indented]; exact isAscii_quoted s
  | arr items ih =>
      cases items with
      | nil => simp [indented, isAscii_nil]
      | cons v items =>
          simp [indented, isAscii_indentedItems ih, isAscii_margin, isAscii_nil]
  | obj members ih =>
      cases members with
      | nil => simp [indented, isAscii_nil]
      | cons m members =>
          simp [indented, isAscii_indentedMembers ih, isAscii_margin, isAscii_nil]

/-- No value ends with a line end. -/
theorem getLast?_indented (level : Nat) (v : Json) :
    ∃ c, (indented level v).getLast? = some c ∧ c ≠ '\n' := by
  cases v with
  | null => exact ⟨'l', by simp [indented], by decide⟩
  | bool b => cases b <;> exact ⟨'e', by simp [indented], by decide⟩
  | int n => rw [indented]; exact getLast?_decimal n
  | str s => exact ⟨'\x22', by simp [indented, quoted, List.getLast?_cons], by decide⟩
  | arr items => cases items <;> exact ⟨']', by simp [indented, List.getLast?_cons], by decide⟩
  | obj members =>
      cases members <;> exact ⟨'\x7d', by simp [indented, List.getLast?_cons], by decide⟩

theorem exists_documentText_eq (v : Json) :
    ∃ body c, v.documentText.toList = body ++ [c, '\n'] ∧ c ≠ '\n' := by
  obtain ⟨c, hlast, hne⟩ := getLast?_indented 0 v
  obtain ⟨body, hbody⟩ := List.getLast?_eq_some_iff.1 hlast
  refine ⟨body, c, ?_, hne⟩
  rw [documentText, String.toList_ofList, hbody, List.append_assoc, List.singleton_append]

theorem isAscii_documentText (v : Json) : IsAscii v.documentText.toList := by
  simp [documentText, isAscii_indented, isAscii_nil]

end ServiceDoc.Json

import ServiceDoc.Text.Utf8
/-!
# ASCII texts

A text of ASCII characters takes one byte for each of them, which is its number and is below 0x80.
-/

namespace ServiceDoc.Text

def IsAscii (s : List Char) : Prop := ∀ c ∈ s, c.toNat < 0x80

theorem isAscii_nil : IsAscii [] := by
  simp [IsAscii]

@[simp] theorem isAscii_cons {c : Char} {s : List Char} :
    IsAscii (c :: s) ↔ c.toNat < 0x80 ∧ IsAscii s :=
  List.forall_mem_cons

@[simp] theorem isAscii_append {s t : List Char} : IsAscii (s ++ t) ↔ IsAscii s ∧ IsAscii t :=
  List.forall_mem_append

theorem isAscii_flatMap {α : Type} {f : α → List Char} {xs : List α}
    (h : ∀ x ∈ xs, IsAscii (f x)) : IsAscii (xs.flatMap f) := by
  intro c hc
  obtain ⟨x, hx, hc⟩ := List.mem_flatMap.1 hc
  exact h x hx c hc

theorem utf8EncodeChar_of_lt {c : Char} (h : c.toNat < 0x80) :
    String.utf8EncodeChar c = [UInt8.ofNat c.toNat] := by
  have hval : c.val.toNat ≤ 0x7F := Nat.le_of_lt_succ h
  rw [String.utf8EncodeChar]
  simp only [if_pos hval]
  rfl

theorem utf8_of_isAscii {s : List Char} (h : IsAscii s) :
    utf8 s = s.map fun c => UInt8.ofNat c.toNat := by
  induction s with
  | nil => rfl
  | cons c s ih =>
      rw [isAscii_cons] at h
      rw [utf8, List.flatMap_cons, utf8EncodeChar_of_lt h.1, ← utf8, ih h.2, List.map_cons,
        List.singleton_append]

theorem toNat_ofNat_toNat {c : Char} (h : c.toNat < 0x80) : (UInt8.ofNat c.toNat).toNat = c.toNat :=
  UInt8.toNat_ofNat_of_lt (Nat.lt_trans h (by decide))

theorem lt_of_mem_utf8 {s : List Char} (h : IsAscii s) {b : UInt8} (hb : b ∈ utf8 s) : b < 0x80 := by
  rw [utf8_of_isAscii h] at hb
  obtain ⟨c, hc, rfl⟩ := List.mem_map.1 hb
  rw [UInt8.lt_iff_toNat_lt, toNat_ofNat_toNat (h c hc)]
  exact h c hc

end ServiceDoc.Text

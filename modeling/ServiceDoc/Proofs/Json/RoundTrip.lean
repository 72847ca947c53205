import ServiceDoc.Proofs.Json.WrittenLeaf
/-!
# Reading documents back

The main statement is `read?_documentText`: the text of a document file is read as the value it was
written from, with the members of every object in their order. It is an induction over the value.
What carries it is that reading stops right behind the value, whatever follows, and that the length
of its text is fuel enough; the level of indentation plays no part, as blanks are skipped.
-/

namespace ServiceDoc.Json

/-- What holds of a value whenever it holds of its parts holds of all values. -/
theorem induction_parts {motive : Json → Prop} (null : motive null)
    (bool : ∀ b, motive (bool b)) (int : ∀ n, motive (int n)) (str : ∀ s, motive (str s))
    (arr : ∀ items, (∀ v ∈ items, motive v) → motive (arr items))
    (obj : ∀ members : List (String × Json), (∀ m ∈ members, motive m.2) → motive (obj members)) :
    ∀ v, motive v
  | .null => null
  | .bool b => bool b
  | .int n => int n
  | .str s => str s
  | .arr items => arr items fun v _hv => induction_parts null bool int str arr obj v
  | .obj members => obj members fun m _hm => induction_parts null bool int str arr obj m.2
termination_by v => sizeOf v
decreasing_by
  · have hlt : sizeOf v < sizeOf items := List.sizeOf_lt_of_mem _hv
    simp only [Json.arr.sizeOf_spec]
    omega
  · have hlt : sizeOf m < sizeOf members := List.sizeOf_lt_of_mem _hm
    have hm : sizeOf m = 1 + sizeOf m.1 + sizeOf m.2 := by
      obtain ⟨k, v⟩ := m
      rfl
    simp only [Json.obj.sizeOf_spec]
    omega

/-! ## Blanks -/

theorem isBlank_of_mem_margin {level : Nat} : ∀ c ∈ margin level, isBlank c = true := by
  intro c hc
  rw [(List.mem_replicate.1 hc).2]
  rfl

section Blank

variable {blank : List Char} (h : ∀ c ∈ blank, isBlank c = true) (s : List Char)
include h

theorem readValue_blank (fuel : Nat) : readValue fuel (blank ++ s) = readValue fuel s := by
  cases fuel with
  | zero => rfl
  | succ fuel => rw [readValue, readValue, List.dropWhile_append_of_pos h]

theorem readItems_blank (fuel : Nat) (acc : List Json) :
    readItems fuel acc (blank ++ s) = readItems fuel acc s := by
  cases fuel with
  | zero => rfl
  | succ fuel => rw [readItems, readItems, readValue_blank h]

theorem readMembers_blank (fuel : Nat) (acc : List (String × Json)) :
    readMembers fuel acc (blank ++ s) = readMembers fuel acc s := by
  cases fuel with
  | zero => rfl
  | succ fuel => rw [readMembers, readMembers, List.dropWhile_append_of_pos h]

omit h

theorem readValue_space (fuel : Nat) : readValue fuel (' ' :: s) = readValue fuel s := by
  have hspace : ∀ c ∈ [' '], isBlank c = true := List.forall_mem_singleton.2 rfl
  exact readValue_blank hspace s fuel

theorem readItems_newline (fuel : Nat) (acc : List Json) :
    readItems fuel acc ('\n' :: s) = readItems fuel acc s := by
  have hline : ∀ c ∈ ['\n'], isBlank c = true := List.forall_mem_singleton.2 rfl
  exact readItems_blank hline s fuel acc

theorem readMembers_newline (fuel : Nat) (acc : List (String × Json)) :
    readMembers fuel acc ('\n' :: s) = readMembers fuel acc s := by
  have hline : ∀ c ∈ ['\n'], isBlank c = true := List.forall_mem_singleton.2 rfl
  exact readMembers_blank hline s fuel acc

end Blank

/-! ## First characters -/

theorem not_isBlank_of_isDigit {c : Char} (h : c.isDigit = true) : isBlank c = false := by
  rw [Bool.eq_false_iff]
  intro hblank
  simp only [isBlank, Bool.or_eq_true, decide_eq_true_eq] at hblank
  rcases hblank with ((rfl | rfl) | rfl) | rfl <;> exact absurd h (by decide)

theorem exists_cons_toDigits (n : Nat) :
    ∃ c cs, Nat.toDigits 10 n = c :: cs ∧ c.isDigit = true := by
  cases h : Nat.toDigits 10 n with
  | nil => exact absurd h Nat.toDigits_ne_nil
  | cons c cs =>
      refine ⟨c, cs, rfl, Nat.isDigit_of_mem_toDigits (b := 10) (n := n) (by decide) (by decide) ?_⟩
      rw [h]
      exact List.mem_cons_self

/-- A written value begins with neither a blank nor a closing bracket. -/
theorem exists_cons_indented (level : Nat) (v : Json) :
    ∃ c cs, indented level v = c :: cs ∧ isBlank c = false ∧ c ≠ ']' := by
  cases v with
  | null => exact ⟨_, _, by rw [indented], rfl, by decide⟩
  | bool b => cases b <;> exact ⟨_, _, by rw [indented], rfl, by decide⟩
  | int n =>
      cases n with
      | ofNat n =>
          obtain ⟨c, cs, hcons, hdigit⟩ := exists_cons_toDigits n
          refine ⟨c, cs, by rw [indented, decimal, hcons], not_isBlank_of_isDigit hdigit, ?_⟩
          rintro rfl
          exact absurd hdigit (by decide)
      | negSucc n => exact ⟨_, _, by rw [indented, decimal], rfl, by decide⟩
  | str s => exact ⟨_, _, by rw [indented, quoted], rfl, by decide⟩
  | arr items => cases items <;> exact ⟨_, _, by rw [indented], rfl, by decide⟩
  | obj members => cases members <;> exact ⟨_, _, by rw [indented], rfl, by decide⟩

/-! ## Values without parts -/

/-- The text of `v` at any level is read as `v`, and reading stops behind it. -/
def ReadsBack (v : Json) : Prop :=
  ∀ (level fuel : Nat) (rest : List Char), (indented level v).length ≤ fuel → EndsNumber rest →
    readValue fuel (indented level v ++ rest) = some (v, rest)

/-- There is always fuel for a first step. -/
theorem readsBack_of_succ {v : Json}
    (h : ∀ (level fuel : Nat) (rest : List Char), (indented level v).length ≤ fuel + 1 →
      EndsNumber rest → readValue (fuel + 1) (indented level v ++ rest) = some (v, rest)) :
    ReadsBack v := by
  intro level fuel rest hfuel hrest
  obtain ⟨c, cs, hcons, -, -⟩ := exists_cons_indented level v
  cases fuel with
  | zero => simp [hcons] at hfuel
  | succ fuel => exact h level fuel rest hfuel hrest

theorem readValue_digit {c : Char} (h : c.isDigit = true) (fuel : Nat) (s : List Char) :
    readValue (fuel + 1) (c :: s) = (readNat (c :: s)).map fun (n, r) => (.int n, r) := by
  rw [readValue, List.dropWhile_cons_of_neg (by simp [not_isBlank_of_isDigit h])]
  split <;> rename_i heq <;> cases heq
  case h_8 => rfl
  all_goals exact absurd h (by decide)

theorem readsBack_null : ReadsBack null :=
  readsBack_of_succ fun _ _ _ _ _ => rfl

theorem readsBack_bool (b : Bool) : ReadsBack (bool b) := by
  cases b <;> exact readsBack_of_succ fun _ _ _ _ _ => rfl

theorem readsBack_int (n : Int) : ReadsBack (int n) := by
  refine readsBack_of_succ ?_
  intro level fuel rest _ hrest
  cases n with
  | ofNat n =>
      have hread := readNat_toDigits n hrest
      obtain ⟨c, cs, hcons, hdigit⟩ := exists_cons_toDigits n
      rw [hcons, List.cons_append] at hread
      rw [indented, decimal, hcons, List.cons_append, readValue_digit hdigit, hread]
      rfl
  | negSucc n =>
      have hread := readNat_toDigits (n + 1) hrest
      rw [indented, decimal, List.cons_append, readValue, List.dropWhile_cons_of_neg (by decide)]
      simp only
      rw [hread]
      rfl

theorem readsBack_str (s : String) : ReadsBack (str s) := by
  refine readsBack_of_succ ?_
  intro level fuel rest _ _
  rw [indented, quoted, List.cons_append, List.append_assoc, List.singleton_append, readValue,
    List.dropWhile_cons_of_neg (by decide)]
  simp only
  rw [readQuoted_quoted]
  rfl

/-! ## Arrays and objects -/

section Equations

variable (level : Nat) (v : Json)

theorem indentedItems_cons_cons (w : Json) (items : List Json) :
    indentedItems level (v :: w :: items) =
      margin level ++ (indented level v ++ ',' :: '\n' :: indentedItems level (w :: items)) := by
  rw [indentedItems]
  exact List.cons_ne_nil w items

theorem indentedMembers_cons_cons (k : String) (m : String × Json)
    (members : List (String × Json)) :
    indentedMembers level ((k, v) :: m :: members) =
      margin level ++ (quoted k ++ ':' :: ' ' ::
        (indented level v ++ ',' :: '\n' :: indentedMembers level (m :: members))) := by
  rw [indentedMembers]
  exact List.cons_ne_nil m members

/-- A first item stands behind its margin. -/
theorem exists_indentedItems_eq (items : List Json) :
    ∃ more, indentedItems level (v :: items) = margin level ++ (indented level v ++ more) := by
  cases items with
  | nil => exact ⟨[], by rw [indentedItems, List.append_nil]⟩
  | cons w items => exact ⟨_, indentedItems_cons_cons level v w items⟩

theorem exists_indentedMembers_eq (k : String) (members : List (String × Json)) :
    ∃ more, indentedMembers level ((k, v) :: members) = margin level ++ '\x22' :: more := by
  cases members with
  | nil => exact ⟨_, by rw [indentedMembers, quoted, List.cons_append]⟩
  | cons m members => exact ⟨_, by rw [indentedMembers_cons_cons, quoted, List.cons_append]⟩

end Equations

section Step

variable {fuel : Nat} {s tail rest : List Char} {v : Json}

/-- A comma behind an item makes room for the next one. -/
theorem readItems_next (hv : readValue fuel s = some (v, tail))
    (h : tail.dropWhile isBlank = ',' :: rest) (acc : List Json) :
    readItems (fuel + 1) acc s = readItems fuel (v :: acc) rest := by
  rw [readItems, hv]
  simp only [h]

theorem readItems_last (hv : readValue fuel s = some (v, tail))
    (h : tail.dropWhile isBlank = ']' :: rest) (acc : List Json) :
    readItems (fuel + 1) acc s = some (.arr (acc.reverse ++ [v]), rest) := by
  rw [readItems, hv]
  simp only [h, List.reverse_cons]

theorem readMembers_next (hv : readValue fuel s = some (v, tail))
    (h : tail.dropWhile isBlank = ',' :: rest) (k : String) (acc : List (String × Json)) :
    readMembers (fuel + 1) acc (quoted k ++ ':' :: ' ' :: s) =
      readMembers fuel ((k, v) :: acc) rest := by
  rw [quoted, List.cons_append, List.append_assoc, List.singleton_append, readMembers,
    List.dropWhile_cons_of_neg (by decide)]
  simp only [readQuoted_quoted, List.dropWhile_cons_of_neg (show ¬ isBlank ':' by decide),
    readValue_space, hv, h]

theorem readMembers_last (hv : readValue fuel s = some (v, tail))
    (h : tail.dropWhile isBlank = '\x7d' :: rest) (k : String) (acc : List (String × Json)) :
    readMembers (fuel + 1) acc (quoted k ++ ':' :: ' ' :: s) =
      some (.obj (acc.reverse ++ [(k, v)]), rest) := by
  rw [quoted, List.cons_append, List.append_assoc, List.singleton_append, readMembers,
    List.dropWhile_cons_of_neg (by decide)]
  simp only [readQuoted_quoted, List.dropWhile_cons_of_neg (show ¬ isBlank ':' by decide),
    readValue_space, hv, h, List.reverse_cons]

end Step

theorem dropWhile_comma (rest : List Char) : (',' :: rest).dropWhile isBlank = ',' :: rest :=
  List.dropWhile_cons_of_neg (by decide)

theorem readItems_indentedItems {items : List Json} (h : ∀ v ∈ items, ReadsBack v)
    (hne : items ≠ []) (level fuel : Nat) {tail rest : List Char}
    (hfuel : (indentedItems level items).length < fuel) (htail : EndsNumber tail)
    (hclose : tail.dropWhile isBlank = ']' :: rest) (acc : List Json) :
    readItems fuel acc (indentedItems level items ++ tail) =
      some (.arr (acc.reverse ++ items), rest) := by
  induction items generalizing fuel acc with
  | nil => exact absurd rfl hne
  | cons v items ih =>
      have hv := h v List.mem_cons_self
      obtain ⟨fuel, rfl⟩ : ∃ f, fuel = f + 1 := ⟨fuel - 1, by omega⟩
      cases items with
      | nil =>
          rw [indentedItems, List.length_append] at hfuel
          rw [indentedItems, List.append_assoc, readItems_blank isBlank_of_mem_margin,
            readItems_last (hv level fuel tail (by omega) htail) hclose]
      | cons w items =>
          have hrest : ∀ u ∈ w :: items, ReadsBack u := fun u hu =>
            h u (List.mem_cons_of_mem v hu)
          rw [indentedItems_cons_cons, List.length_append, List.length_append, List.length_cons,
            List.length_cons] at hfuel
          rw [indentedItems_cons_cons, List.append_assoc, readItems_blank isBlank_of_mem_margin,
            List.append_assoc, List.cons_append, List.cons_append,
            readItems_next (hv level fuel _ (by omega) (endsNumber_cons (by decide) _))
              (dropWhile_comma _),
            readItems_newline, ih hrest (List.cons_ne_nil w items) _ (by omega),
            List.reverse_cons, List.append_assoc, List.singleton_append]

theorem readMembers_indentedMembers {members : List (String × Json)}
    (h : ∀ m ∈ members, ReadsBack m.2) (hne : members ≠ []) (level fuel : Nat)
    {tail rest : List Char} (hfuel : (indentedMembers level members).length < fuel)
    (htail : EndsNumber tail) (hclose : tail.dropWhile isBlank = '\x7d' :: rest)
    (acc : List (String × Json)) :
    readMembers fuel acc (indentedMembers level members ++ tail) =
      some (.obj (acc.reverse ++ members), rest) := by
  induction members generalizing fuel acc with
  | nil => exact absurd rfl hne
  | cons m members ih =>
      obtain ⟨k, v⟩ := m
      have hv : ReadsBack v := h (k, v) List.mem_cons_self
      obtain ⟨fuel, rfl⟩ : ∃ f, fuel = f + 1 := ⟨fuel - 1, by omega⟩
      cases members with
      | nil =>
          rw [indentedMembers, List.length_append, List.length_append, List.length_cons,
            List.length_cons] at hfuel
          rw [indentedMembers, List.append_assoc, readMembers_blank isBlank_of_mem_margin,
            List.append_assoc, List.cons_append, List.cons_append,
            readMembers_last (hv level fuel tail (by omega) htail) hclose]
      | cons n members =>
          have hrest : ∀ u ∈ n :: members, ReadsBack u.2 := fun u hu =>
            h u (List.mem_cons_of_mem (k, v) hu)
          rw [indentedMembers_cons_cons, List.length_append, List.length_append, List.length_cons,
            List.length_cons, List.length_append, List.length_cons, List.length_cons] at hfuel
          rw [indentedMembers_cons_cons, List.append_assoc,
            readMembers_blank isBlank_of_mem_margin, List.append_assoc, List.cons_append,
            List.cons_append, List.append_assoc, List.cons_append, List.cons_append,
            readMembers_next (hv level fuel _ (by omega) (endsNumber_cons (by decide) _))
              (dropWhile_comma _),
            readMembers_newline, ih hrest (List.cons_ne_nil n members) _ (by omega),
            List.reverse_cons, List.append_assoc, List.singleton_append]

/-- A line end and the margin behind it are skipped. -/
theorem dropWhile_margin {c : Char} (h : isBlank c = false) (level : Nat) (rest : List Char) :
    ('\n' :: (margin level ++ c :: rest)).dropWhile isBlank = c :: rest := by
  rw [List.dropWhile_cons_of_pos (by decide), List.dropWhile_append_of_pos isBlank_of_mem_margin,
    List.dropWhile_cons_of_neg (by simp [h])]

theorem readValue_bracket {s cs : List Char} {c : Char} (h : s.dropWhile isBlank = c :: cs)
    (hc : c ≠ ']') (fuel : Nat) : readValue (fuel + 1) ('[' :: s) = readItems fuel [] s := by
  rw [readValue, List.dropWhile_cons_of_neg (by decide)]
  simp only
  rw [h]
  split
  · next heq => exact absurd (List.cons.inj heq).1 hc
  · rfl

theorem readValue_brace {s cs : List Char} {c : Char} (h : s.dropWhile isBlank = c :: cs)
    (hc : c ≠ '\x7d') (fuel : Nat) :
    readValue (fuel + 1) ('\x7b' :: s) = readMembers fuel [] s := by
  rw [readValue, List.dropWhile_cons_of_neg (by decide)]
  simp only
  rw [h]
  split
  · next heq => exact absurd (List.cons.inj heq).1 hc
  · rfl

theorem readsBack_arr {items : List Json} (h : ∀ v ∈ items, ReadsBack v) :
    ReadsBack (arr items) := by
  refine readsBack_of_succ ?_
  intro level fuel rest hfuel _
  cases items with
  | nil => rfl
  | cons v items =>
      rw [indented, List.length_cons, List.length_cons, List.length_append] at hfuel
      have hread := readItems_indentedItems h (List.cons_ne_nil v items) (level + 1) fuel
        (by omega) (endsNumber_cons (c := '\n') (by decide) _)
        (dropWhile_margin (c := ']') (by decide) level rest) []
      obtain ⟨more, hmore⟩ := exists_indentedItems_eq (level + 1) v items
      obtain ⟨c, cs, hcons, hblank, hbracket⟩ := exists_cons_indented (level + 1) v
      have hfirst (tail : List Char) :
          ('\n' :: (indentedItems (level + 1) (v :: items) ++ tail)).dropWhile isBlank =
            c :: (cs ++ (more ++ tail)) := by
        rw [hmore, hcons, List.append_assoc, List.append_assoc, List.cons_append,
          dropWhile_margin hblank]
      rw [indented, List.cons_append, List.cons_append, List.append_assoc, List.cons_append,
        List.append_assoc, List.singleton_append, readValue_bracket (hfirst _) hbracket,
        readItems_newline, hread]
      rfl

theorem readsBack_obj {members : List (String × Json)} (h : ∀ m ∈ members, ReadsBack m.2) :
    ReadsBack (obj members) := by
  refine readsBack_of_succ ?_
  intro level fuel rest hfuel _
  cases members with
  | nil => rfl
  | cons m members =>
      obtain ⟨k, v⟩ := m
      rw [indented, List.length_cons, List.length_cons, List.length_append] at hfuel
      have hread := readMembers_indentedMembers h (List.cons_ne_nil (k, v) members)
        (level + 1) fuel (by omega) (endsNumber_cons (c := '\n') (by decide) _)
        (dropWhile_margin (c := '\x7d') (by decide) level rest) []
      obtain ⟨more, hmore⟩ := exists_indentedMembers_eq (level + 1) v k members
      have hfirst (tail : List Char) :
          ('\n' :: (indentedMembers (level + 1) ((k, v) :: members) ++ tail)).dropWhile isBlank =
            '\x22' :: (more ++ tail) := by
        rw [hmore, List.append_assoc, List.cons_append, dropWhile_margin (by decide)]
      rw [indented, List.cons_append, List.cons_append, List.append_assoc, List.cons_append,
        List.append_assoc, List.singleton_append, readValue_brace (hfirst _) (by decide),
        readMembers_newline, hread]
      rfl

theorem readsBack (v : Json) : ReadsBack v := by
  induction v using induction_parts with
  | null => exact readsBack_null
  | bool b => exact readsBack_bool b
  | int n => exact readsBack_int n
  | str s => exact readsBack_str s
  | arr items ih => exact readsBack_arr ih
  | obj members ih => exact readsBack_obj ih

/-- The text of a document file is read as the value it was written from. -/
theorem read?_documentText (v : Json) : read? v.documentText.toList = some v := by
  rw [documentText, String.toList_ofList, read?,
    readsBack v 0 _ ['\n'] (by rw [List.length_append]; omega) (endsNumber_cons (by decide) [])]
  rfl

end ServiceDoc.Json

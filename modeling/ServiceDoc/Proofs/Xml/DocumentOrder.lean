import Mathlib.Data.List.Basic
import ServiceDoc.Xml.Tree
/-!
# Document order

The nodes of a tree in the order in which a reader of the document meets them: a node before the
nodes below it, and siblings as they are written. A node is met at a place, which is the node
together with the nodes it stands in, from the inside out.

What is chosen by a name a few levels up can also be found by going through the elements of that
name and looking below each of them. The two orders agree as long as no element of that name stands
in another one, which is `filterMap_places`.
-/

namespace ServiceDoc.Xml.Node

mutual

/-- The places of a tree that stands in the nodes `above`, in document order. -/
def places (above : List Node) : Node → List (List Node)
  | text s => [text s :: above]
  | element n attributes children =>
    (element n attributes children :: above) ::
      placesBelow (element n attributes children :: above) children

/-- The places of trees that follow each other. -/
def placesBelow (above : List Node) : List Node → List (List Node)
  | [] => []
  | n :: ns => places above n ++ placesBelow above ns

end

theorem placesBelow_eq_flatMap (above ns : List Node) :
    placesBelow above ns = ns.flatMap (places above) := by
  induction ns with
  | nil => rfl
  | cons n ns ih => rw [placesBelow, ih, List.flatMap_cons]

theorem allNamedBelow_eq_flatMap (name : String) (ns : List Node) :
    allNamedBelow name ns = ns.flatMap (allNamed name) := by
  induction ns with
  | nil => rfl
  | cons n ns ih => rw [allNamedBelow, ih, List.flatMap_cons]

theorem places_eq (above : List Node) (n : Node) :
    n.places above = (n :: above) :: n.children.flatMap (places (n :: above)) := by
  cases n with
  | text s => rfl
  | element name attributes children => rw [places, placesBelow_eq_flatMap, Node.children]

theorem allNamed_of_isNamed {name : String} {n : Node} (h : n.isNamed name) :
    n.allNamed name = n :: n.children.flatMap (allNamed name) := by
  cases n with
  | text s => cases h
  | element n' attributes children =>
      rw [allNamed, if_pos (of_decide_eq_true h), allNamedBelow_eq_flatMap, Node.children]

theorem allNamed_of_not_isNamed {name : String} {n : Node} (h : n.isNamed name = false) :
    n.allNamed name = n.children.flatMap (allNamed name) := by
  cases n with
  | text s => rfl
  | element n' attributes children =>
      rw [allNamed, if_neg (of_decide_eq_false h), allNamedBelow_eq_flatMap, Node.children]

theorem eq_of_isNamed {name name' : String} {n : Node} (h : n.isNamed name)
    (h' : n.isNamed name') : name = name' := by
  cases n with
  | text s => cases h
  | element n' attributes children =>
      exact (of_decide_eq_true h).symm.trans (of_decide_eq_true h')

theorem not_isNamed_of_ne {name name' : String} {n : Node} (h : n.isNamed name)
    (hne : name ≠ name') : n.isNamed name' = false := by
  rw [Bool.eq_false_iff]
  exact fun h' => hne (eq_of_isNamed h h')

theorem not_isNamed_of_allNamed_eq_nil {name : String} {n : Node} (h : n.allNamed name = []) :
    n.isNamed name = false := by
  cases hn : n.isNamed name with
  | false => rfl
  | true => simp [allNamed_of_isNamed hn] at h

theorem flatMap_childrenNamed {α : Type} (name : String) (n : Node) (g : Node → List α) :
    (n.childrenNamed name).flatMap g =
      n.children.flatMap fun c => if c.isNamed name then g c else [] := by
  rw [childrenNamed]
  induction n.children with
  | nil => rfl
  | cons c cs ih =>
      rw [List.filter_cons, List.flatMap_cons, ← ih]
      by_cases hc : c.isNamed name <;> simp [hc]

/-- What holds of a node whenever it holds of its children holds of all nodes. -/
theorem induction_children {motive : Node → Prop}
    (h : ∀ n, (∀ c ∈ n.children, motive c) → motive n) : ∀ n, motive n
  | text s => h (text s) fun _ hc => nomatch hc
  | element n attributes children =>
    h (element n attributes children) fun c _hc => induction_children h c
termination_by n => sizeOf n
decreasing_by
  have hlt : sizeOf c < sizeOf children := List.sizeOf_lt_of_mem _hc
  simp only [element.sizeOf_spec]
  omega

/-- The elements of a name are found in document order. -/
theorem allNamed_eq_filter_places (name : String) (n : Node) (above : List Node) :
    n.allNamed name = ((n.places above).filterMap List.head?).filter (isNamed name) := by
  induction n using induction_children generalizing above with
  | h n ih =>
      have hbelow : n.children.flatMap (allNamed name) =
          ((n.children.flatMap (places (n :: above))).filterMap List.head?).filter
            (isNamed name) := by
        rw [List.filterMap_flatMap, List.filter_flatMap]
        apply List.flatMap_congr
        intro c hc
        exact ih c hc (n :: above)
      rw [places_eq, List.filterMap_cons_some List.head?_cons]
      cases hn : n.isNamed name with
      | false =>
          rw [allNamed_of_not_isNamed hn, hbelow, List.filter_cons_of_neg (by simp [hn])]
      | true =>
          rw [allNamed_of_isNamed hn, hbelow, List.filter_cons_of_pos hn]

theorem isNamed_of_mem_allNamed {name : String} {n s : Node} (h : s ∈ n.allNamed name) :
    s.isNamed name := by
  rw [allNamed_eq_filter_places name n []] at h
  exact (List.mem_filter.1 h).2

/-! ## Going through the elements of a name -/

/-- A choice of places that needs an element of that name at most so many levels up, and that does
not depend on what this element stands in. -/
structure IsAnchored {α : Type} (name : String) (depth : Nat) (choose : List Node → Option α) :
    Prop where
  needs : ∀ n above, (∀ m ∈ above.take depth, m.isNamed name = false) → choose (n :: above) = none
  stops : ∀ s, s.isNamed name → ∀ c below above,
    choose (c :: below ++ s :: above) = choose (c :: below ++ [s])

/-- The choices at a node and below it, over so many levels. -/
def choicesWithin {α : Type} (choose : List Node → Option α) :
    Nat → List Node → Node → List α
  | 0, _, _ => []
  | levels + 1, above, n =>
    (choose (n :: above)).toList ++ n.children.flatMap (choicesWithin choose levels (n :: above))

variable {α : Type} {name : String} {depth : Nat} {choose : List Node → Option α}

theorem choicesWithin_one (above : List Node) :
    choicesWithin choose 1 above = fun n => (choose (n :: above)).toList := by
  funext n
  simp [choicesWithin]

theorem choicesWithin_add_two (levels : Nat) (above : List Node) (n : Node)
    (h : choose (n :: above) = none) :
    choicesWithin choose (levels + 2) above n =
      n.children.flatMap (choicesWithin choose (levels + 1) (n :: above)) := by
  rw [choicesWithin, h, Option.toList_none, List.nil_append]

theorem length_lt_of_mem_places {n : Node} {above place : List Node} (h : place ∈ n.places above) :
    above.length < place.length := by
  induction n using induction_children generalizing above with
  | h n ih =>
      rw [places_eq, List.mem_cons, List.mem_flatMap] at h
      rcases h with rfl | ⟨c, hc, hplace⟩
      · exact Nat.lt_succ_self _
      · exact Nat.lt_of_succ_lt (ih c hc hplace)

/-- A choice that takes no place below a number of levels is made within them. -/
theorem filterMap_places_of_length {levels : Nat} {above : List Node}
    (h : ∀ place, above.length + levels < place.length → choose place = none) (n : Node) :
    (n.places above).filterMap choose = choicesWithin choose levels above n := by
  induction levels generalizing above n with
  | zero =>
      rw [choicesWithin, List.filterMap_eq_nil_iff]
      exact fun place hplace => h place (length_lt_of_mem_places hplace)
  | succ levels ih =>
      have hbelow : ∀ place, (n :: above).length + levels < place.length → choose place = none :=
        fun place hplace => h place (by rw [List.length_cons] at hplace; omega)
      have hchildren : (n.children.flatMap (places (n :: above))).filterMap choose =
          n.children.flatMap (choicesWithin choose levels (n :: above)) := by
        rw [List.filterMap_flatMap]
        exact List.flatMap_congr fun c _ => ih hbelow c
      rw [places_eq, List.filterMap_cons, hchildren, choicesWithin]
      cases choose (n :: above) <;> rfl

/-- In a tree without elements of that name, a choice reaches as many levels as are left of its
depth by the nodes above, among which there is no such element either. -/
theorem filterMap_places_of_allNamed_eq_nil (hc : IsAnchored name depth choose) {n : Node}
    (h : n.allNamed name = []) {levels : Nat} (hlevels : levels ≤ depth) {above : List Node}
    (ha : ∀ m ∈ above.take (depth - levels), m.isNamed name = false) :
    (n.places above).filterMap choose = choicesWithin choose levels above n := by
  induction n using induction_children generalizing levels above with
  | h n ih =>
      have hn := not_isNamed_of_allNamed_eq_nil h
      rw [allNamed_of_not_isNamed hn, List.flatMap_eq_nil_iff] at h
      have hbelow (k : Nat) (hk : k ≤ depth - levels + 1) :
          ∀ m ∈ (n :: above).take k, m.isNamed name = false := by
        intro m hm
        have hcons : m ∈ n :: above.take (depth - levels) := by
          rw [← List.take_succ_cons]
          exact (List.take_sublist_take_left hk).mem hm
        rcases List.mem_cons.1 hcons with rfl | hm
        · exact hn
        · exact ha m hm
      rw [places_eq, List.filterMap_cons, List.filterMap_flatMap]
      cases levels with
      | zero =>
          rw [Nat.sub_zero] at ha hbelow
          have hchild : ∀ c ∈ n.children, (c.places (n :: above)).filterMap choose = [] :=
            fun c hmem => ih c hmem (h c hmem) (Nat.zero_le depth) (hbelow depth (by omega))
          rw [hc.needs n above ha, List.flatMap_eq_nil_iff.2 hchild]
          rfl
      | succ levels =>
          have hchild : ∀ c ∈ n.children, (c.places (n :: above)).filterMap choose =
              choicesWithin choose levels (n :: above) c :=
            fun c hmem => ih c hmem (h c hmem) (by omega) (hbelow (depth - levels) (by omega))
          rw [List.flatMap_congr hchild, choicesWithin]
          cases choose (n :: above) with
          | none => rfl
          | some x => rfl

/-- Choices below an element of that name do not look beyond it. -/
theorem choicesWithin_append (hc : IsAnchored name depth choose) {s : Node} (hs : s.isNamed name)
    (levels : Nat) (below above : List Node) (n : Node) :
    choicesWithin choose levels (below ++ s :: above) n =
      choicesWithin choose levels (below ++ [s]) n := by
  induction levels generalizing below n with
  | zero => rfl
  | succ levels ih =>
      rw [choicesWithin, choicesWithin, ← List.cons_append, hc.stops s hs n below above]
      congr 1
      apply List.flatMap_congr
      intro c _
      exact ih (n :: below) c

/-- Below an element of that name, which has no other one in it, a choice reaches its depth. -/
theorem filterMap_places_children (hc : IsAnchored name depth choose) {s : Node}
    (hs : s.isNamed name) (h : ∀ c ∈ s.children, c.allNamed name = []) (above : List Node) :
    (s.children.flatMap (places (s :: above))).filterMap choose =
      s.children.flatMap (choicesWithin choose depth [s]) := by
  rw [List.filterMap_flatMap]
  apply List.flatMap_congr
  intro c hmem
  have hwithin : (c.places (s :: above)).filterMap choose =
      choicesWithin choose depth (s :: above) c :=
    filterMap_places_of_allNamed_eq_nil hc (h c hmem) (Nat.le_refl depth) (by simp)
  exact hwithin.trans (choicesWithin_append hc hs depth [] above c)

/-- Where no element of a name stands in another one, a choice in document order is a choice below
one element of that name after the other. -/
theorem filterMap_places (hc : IsAnchored name depth choose) {n : Node}
    (h : ∀ s ∈ n.allNamed name, ∀ c ∈ s.children, c.allNamed name = []) {above : List Node}
    (ha : ∀ m ∈ above.take depth, m.isNamed name = false) :
    (n.places above).filterMap choose =
      (n.allNamed name).flatMap fun s => s.children.flatMap (choicesWithin choose depth [s]) := by
  induction n using induction_children generalizing above with
  | h n ih =>
      rw [places_eq, List.filterMap_cons_none (hc.needs n above ha)]
      cases hn : n.isNamed name with
      | false =>
          rw [allNamed_of_not_isNamed hn, List.flatMap_assoc, List.filterMap_flatMap]
          apply List.flatMap_congr
          intro c hmem
          apply ih c hmem
          · intro s hs
            rw [allNamed_of_not_isNamed hn] at h
            exact h s (List.mem_flatMap.2 ⟨c, hmem, hs⟩)
          · intro m hm
            have hcons : m ∈ n :: above.take depth := by
              rw [← List.take_succ_cons]
              exact (List.take_sublist_take_left (Nat.le_succ depth)).mem hm
            rcases List.mem_cons.1 hcons with rfl | hm
            · exact hn
            · exact ha m hm
      | true =>
          have hself := allNamed_of_isNamed hn
          have hchildren : ∀ c ∈ n.children, c.allNamed name = [] :=
            h n (by rw [hself]; exact List.mem_cons_self)
          rw [hself, List.flatMap_eq_nil_iff.2 hchildren, List.flatMap_singleton]
          exact filterMap_places_children hc hn hchildren above

end ServiceDoc.Xml.Node

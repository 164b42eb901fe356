import Mathlib.Data.List.Perm.Basic
import Mathlib.Tactic.Lemma
import Tandem.Registers

/-!
# Register files as sets of written registers

The entries of a file are in increasing order of names, so a file is known once it is known what
every register was written with last. Hence it does not matter in which order two different
registers are written, and of two writes to the same register only the second one counts.
-/

namespace Tandem

/-- No register comes before itself. -/
lemma Register.lt_irrefl (x : Register) : ¬x < x :=
  String.lt_irrefl x.name

namespace Registers

variable {r r' : Registers} {x y : Register} {v w : Word} {l l' : List (Register × Word)}

/-- The entries of a sorted list are what is found in it. -/
lemma mem_iff_lookup (sorted : l.Pairwise fun a b => a.1 < b.1) :
    (x, v) ∈ l ↔ l.lookup x = some v := by
  induction l with
  | nil => simp
  | cons head rest ih =>
    obtain ⟨y, w⟩ := head
    obtain ⟨above, sorted⟩ := List.pairwise_cons.1 sorted
    by_cases same : x = y
    · subst same
      have notAgain : (x, v) ∉ rest := fun mem => Register.lt_irrefl x (above _ mem)
      simp [notAgain, eq_comm]
    · rw [lookup_cons_of_ne w rest same, ← ih sorted]
      simp [same]

/-- Sorted lists in which the same is found are the same. -/
lemma eq_of_lookup_eq (sorted : l.Pairwise fun a b => a.1 < b.1)
    (sorted' : l'.Pairwise fun a b => a.1 < b.1) (same : ∀ x, l.lookup x = l'.lookup x) :
    l = l' := by
  have mem : ∀ e, e ∈ l ↔ e ∈ l' := by
    rintro ⟨x, v⟩
    rw [mem_iff_lookup sorted, mem_iff_lookup sorted', same]
  have distinct : ∀ {a b : Register × Word}, a.1 < b.1 → a ≠ b := by
    rintro a _ lt rfl
    exact Register.lt_irrefl a.1 lt
  -- the same entries can be listed in increasing order in one way only
  have perm : l.Perm l' :=
    (List.perm_ext_iff_of_nodup (sorted.imp distinct) (sorted'.imp distinct)).2 mem
  refine perm.eq_of_pairwise ?_ sorted sorted'
  intro a b _ _ lt gt
  exact absurd (Register.lt_trans lt gt) (Register.lt_irrefl a.1)

/-- The word that a register was written with last, if it was written. -/
def find? (r : Registers) (x : Register) : Option Word :=
  r.entries.lookup x

/-- A register holds the word that was written last, or zero. -/
lemma get_eq_getD_find? (r : Registers) (x : Register) : r.get x = (r.find? x).getD 0 := rfl

/-- A write is found at its register, and nowhere else. -/
lemma find?_set (r : Registers) (x y : Register) (v : Word) :
    (r.set x v).find? y = if y = x then some v else r.find? y :=
  lookup_insertEntry x y v r.entries

/-- The registers listed are those that were written. -/
lemma mem_toList_iff : x ∈ r.toList.map Prod.fst ↔ r.find? x ≠ none := by
  rw [Option.ne_none_iff_exists']
  constructor
  · intro mem
    obtain ⟨⟨y, v⟩, entry, rfl⟩ := List.mem_map.1 mem
    exact ⟨v, (mem_iff_lookup r.sorted).1 entry⟩
  · rintro ⟨v, found⟩
    exact List.mem_map.2 ⟨(x, v), (mem_iff_lookup r.sorted).2 found, rfl⟩

/-- A file is what its registers were written with. -/
lemma ext_find? (same : ∀ x, r.find? x = r'.find? x) : r = r' := by
  cases r
  cases r'
  congr
  exact eq_of_lookup_eq ‹_› ‹_› same

/-- Of two writes to the same register only the second one counts. -/
lemma set_set (r : Registers) (x : Register) (v w : Word) : (r.set x v).set x w = r.set x w := by
  apply ext_find?
  intro y
  by_cases same : y = x
  · simp [find?_set, same]
  · simp [find?_set, same]

/-- Different registers can be written in either order. -/
lemma set_comm (r : Registers) (ne : x ≠ y) (v w : Word) :
    (r.set x v).set y w = (r.set y w).set x v := by
  apply ext_find?
  intro z
  by_cases same : z = x
  · subst same
    simp [find?_set, ne]
  · simp [find?_set, same]

/-- The written registers other than `x`. -/
def others (r : Registers) (x : Register) : List (Register × Word) :=
  r.toList.filter fun e => e.1 ≠ x

/-- An insertion leaves the entries of the other registers. -/
lemma filter_insertEntry (x : Register) (v : Word) (l : List (Register × Word)) :
    ((insertEntry x v l).filter fun e => e.1 ≠ x) = l.filter fun e => e.1 ≠ x := by
  induction l with
  | nil => simp [insertEntry]
  | cons head rest ih =>
    obtain ⟨y, w⟩ := head
    rw [insertEntry]
    split
    · simp
    · split
      · next same =>
        subst same
        simp
      · rw [List.filter_cons, List.filter_cons, ih]

/-- A write leaves the other registers listed as they were. -/
lemma others_set (r : Registers) (x : Register) (v : Word) : (r.set x v).others x = r.others x :=
  filter_insertEntry x v r.entries

end Registers

end Tandem

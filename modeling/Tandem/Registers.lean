import Tandem.Numeral

/-!
# Register files

A machine has one register for every name. A register that was never written holds zero; all the
same a file tells a register that was written with zero from one that was never written. The written
registers are kept in order of their names, so that a file has one representation only and two files
are equal exactly when the same registers were written and hold the same words.
-/

namespace Tandem

/-- A register, known by its name. Any text is a name. -/
structure Register where
  name : String
  deriving DecidableEq, Repr

namespace Register

instance : LT Register := ⟨fun x y => x.name < y.name⟩

instance (x y : Register) : Decidable (x < y) :=
  inferInstanceAs (Decidable (x.name < y.name))

/-- The order of the registers is transitive. -/
theorem lt_trans {x y z : Register} : x < y → y < z → x < z :=
  String.lt_trans

/-- Names are ordered linearly. -/
theorem lt_of_not_lt_of_ne {x y : Register} (h : ¬x < y) (ne : x ≠ y) : y < x := by
  apply Decidable.byContradiction
  intro h'
  apply ne
  cases x
  cases y
  exact congrArg _ (String.le_antisymm h' h)

end Register

/-- The registers written so far, each with the word it holds, in increasing order of names. -/
structure Registers where
  entries : List (Register × Word)
  sorted : entries.Pairwise fun a b => a.1 < b.1
  deriving DecidableEq

namespace Registers

/-- Put a word at its place among entries in increasing order. -/
def insertEntry (x : Register) (v : Word) : List (Register × Word) → List (Register × Word)
  | [] => [(x, v)]
  | (y, w) :: rest =>
    if x < y then (x, v) :: (y, w) :: rest
    else if x = y then (x, v) :: rest
    else (y, w) :: insertEntry x v rest

/-- An insertion brings no other entry than the new one. -/
theorem mem_insertEntry {x : Register} {v : Word} {l : List (Register × Word)} {e : Register × Word}
    (h : e ∈ insertEntry x v l) : e = (x, v) ∨ e ∈ l := by
  induction l with
  | nil => simpa [insertEntry] using h
  | cons head rest ih =>
    rw [insertEntry] at h
    split at h
    · simpa using h
    · split at h
      · rcases List.mem_cons.1 h with rfl | h
        · exact .inl rfl
        · exact .inr (List.mem_cons_of_mem _ h)
      · rcases List.mem_cons.1 h with rfl | h
        · exact .inr List.mem_cons_self
        · exact (ih h).imp_right (List.mem_cons_of_mem _)

/-- Inserting keeps the order. -/
theorem pairwise_insertEntry (x : Register) (v : Word) {l : List (Register × Word)}
    (h : l.Pairwise fun a b => a.1 < b.1) : (insertEntry x v l).Pairwise fun a b => a.1 < b.1 := by
  induction l with
  | nil => simp [insertEntry]
  | cons head rest ih =>
    obtain ⟨above, sorted⟩ := List.pairwise_cons.1 h
    rw [insertEntry]
    split
    · next lt =>
      refine List.pairwise_cons.2 ⟨fun e he => ?_, h⟩
      rcases List.mem_cons.1 he with rfl | he
      · exact lt
      · exact Register.lt_trans lt (above e he)
    · next not_lt =>
      split
      · next eq =>
        subst eq
        exact List.pairwise_cons.2 ⟨above, sorted⟩
      · next ne =>
        refine List.pairwise_cons.2 ⟨fun e he => ?_, ih sorted⟩
        rcases mem_insertEntry he with rfl | he
        · exact Register.lt_of_not_lt_of_ne not_lt ne
        · exact above e he

/-- A lookup passes over the entries of other registers. -/
theorem lookup_cons_of_ne {x y : Register} (v : Word) (l : List (Register × Word)) (h : y ≠ x) :
    ((x, v) :: l).lookup y = l.lookup y := by
  rw [List.lookup_cons, beq_eq_false_iff_ne.2 h]

/-- Looking up after inserting. -/
theorem lookup_insertEntry (x y : Register) (v : Word) (l : List (Register × Word)) :
    (insertEntry x v l).lookup y = if y = x then some v else l.lookup y := by
  induction l with
  | nil =>
    by_cases h : y = x
    · simp [insertEntry, h]
    · simp [insertEntry, lookup_cons_of_ne, h]
  | cons head rest ih =>
    obtain ⟨z, w⟩ := head
    rw [insertEntry]
    split
    · by_cases h : y = x
      · simp [h]
      · simp [lookup_cons_of_ne, h]
    · split
      · next eq =>
        subst eq
        by_cases h : y = x
        · simp [h]
        · simp [lookup_cons_of_ne, h]
      · next ne =>
        by_cases h : y = z
        · subst h
          simp [Ne.symm ne]
        · simp [lookup_cons_of_ne, h, ih]

/-- The file in which nothing was written. -/
def empty : Registers := ⟨[], .nil⟩

instance : Inhabited Registers := ⟨empty⟩

/-- The word in a register: what was written last, or zero. -/
def get (r : Registers) (x : Register) : Word :=
  (r.entries.lookup x).getD 0

/-- Write a register. -/
def set (r : Registers) (x : Register) (v : Word) : Registers :=
  ⟨insertEntry x v r.entries, pairwise_insertEntry x v r.sorted⟩

/-- Every register of the empty file holds zero. -/
@[simp] theorem get_empty (x : Register) : empty.get x = 0 := rfl

/-- A write changes the register that it is made to, and no other. -/
theorem get_set (r : Registers) (x y : Register) (v : Word) :
    (r.set x v).get y = if y = x then v else r.get y := by
  simp only [get, set, lookup_insertEntry]
  split <;> rfl

/-- A register holds the word that was written last. -/
@[simp] theorem get_set_self (r : Registers) (x : Register) (v : Word) : (r.set x v).get x = v := by
  simp [get_set]

/-- A write leaves the other registers. -/
theorem get_set_of_ne (r : Registers) {x y : Register} (v : Word) (h : y ≠ x) :
    (r.set x v).get y = r.get y := by
  simp [get_set, h]

/-- Write registers one after another. -/
def setAll (r : Registers) (writes : List (Register × Word)) : Registers :=
  writes.foldl (fun r (x, v) => r.set x v) r

/-- The file in which only register `p` was written. -/
def seeded (v : Word) : Registers :=
  empty.set ⟨"p"⟩ v

/-- How many registers were written. -/
def size (r : Registers) : Nat :=
  r.entries.length

/-- Whether no register was written. -/
def isEmpty (r : Registers) : Bool :=
  r.entries.isEmpty

/-- The written registers with their words, in increasing order of names. -/
def toList (r : Registers) : List (Register × Word) :=
  r.entries

end Registers

end Tandem

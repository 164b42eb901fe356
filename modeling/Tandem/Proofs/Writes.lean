import Mathlib.Data.List.Dedup
import Tandem.Proofs.Registers

/-!
# What is left of a sequence of writes

Registers are written one after another, some of them again and again. All that is left of it is the
last write to every register (`lastWrite?`), and that alone decides about the file: what its
registers hold, which of them are listed and how many there are (`Registers.find?_setAll`). The
order in which different registers were written leaves no trace, since the listing goes by the code
points of their names.
-/

namespace Tandem

/-- The code points of a name. -/
def Register.codePoints (x : Register) : List Nat :=
  x.name.toList.map Char.toNat

/-- Registers come in the order of the code points of their names. -/
lemma Register.codePoints_lt {x y : Register} (lt : x < y) : x.codePoints < y.codePoints :=
  List.map_lt (fun _ _ less => less) (String.lt_iff.1 lt)

/-- The word in the last of the writes to a register, if there is one. -/
def lastWrite? (writes : List (Register × Word)) (x : Register) : Option Word :=
  (writes.filter fun w => w.1 = x).getLast?.map Prod.snd

section LastWrite

variable {x : Register} {v : Word} {writes : List (Register × Word)}

/-- A first write is the last one to its register if no other follows. -/
lemma lastWrite?_cons_self (x : Register) (v : Word) (writes : List (Register × Word)) :
    lastWrite? ((x, v) :: writes) x = some ((lastWrite? writes x).getD v) := by
  rw [lastWrite?, List.filter_cons_of_pos (by simp), List.getLast?_cons, lastWrite?]
  cases (writes.filter fun w => w.1 = x).getLast? <;> rfl

/-- A first write does not count for another register. -/
lemma lastWrite?_cons_of_ne {y : Register} (ne : y ≠ x) (v : Word)
    (writes : List (Register × Word)) : lastWrite? ((x, v) :: writes) y = lastWrite? writes y := by
  rw [lastWrite?, List.filter_cons_of_neg (by simpa using ne.symm), lastWrite?]

/-- There is no last write exactly to the registers that were not written. -/
lemma lastWrite?_eq_none_iff : lastWrite? writes x = none ↔ x ∉ writes.map Prod.fst := by
  rw [lastWrite?, Option.map_eq_none_iff, List.getLast?_eq_none_iff, List.filter_eq_nil_iff]
  constructor
  · intro never mem
    obtain ⟨w, written, rfl⟩ := List.mem_map.1 mem
    exact never w written (by simp)
  · intro never w written same
    exact never (List.mem_map.2 ⟨w, written, by simpa using same⟩)

end LastWrite

namespace Registers

variable {x : Register} {v : Word}

/-- A register that is among those written holds the last of its writes, and every other one what it
held before. -/
lemma find?_setAll (r : Registers) (writes : List (Register × Word)) (x : Register) :
    (r.setAll writes).find? x = (lastWrite? writes x).or (r.find? x) := by
  induction writes generalizing r with
  | nil => rfl
  | cons first rest ih =>
    obtain ⟨y, w⟩ := first
    have later := ih (r.set y w)
    rw [find?_set] at later
    show ((r.set y w).setAll rest).find? x = _
    by_cases same : x = y
    · subst same
      rw [later, if_pos rfl, lastWrite?_cons_self]
      cases lastWrite? rest x <;> rfl
    · rw [later, if_neg same, lastWrite?_cons_of_ne same]

/-- All that is found in a file is the last writes. -/
lemma find?_setAll_empty (writes : List (Register × Word)) (x : Register) :
    (empty.setAll writes).find? x = lastWrite? writes x := by
  rw [find?_setAll]
  show (lastWrite? writes x).or none = _
  exact Option.or_none

/-- A file lists what is found in it. -/
lemma mem_toList {r : Registers} : (x, v) ∈ r.toList ↔ r.find? x = some v :=
  mem_iff_lookup r.sorted

/-- No register is listed twice. -/
lemma nodup_names (r : Registers) : (r.toList.map Prod.fst).Nodup := by
  refine List.pairwise_map.2 (r.sorted.imp ?_)
  intro a b lt same
  rw [same] at lt
  exact Register.lt_irrefl b.1 lt

/-- The registers listed are those that were written. -/
lemma mem_names_setAll (writes : List (Register × Word)) :
    x ∈ (empty.setAll writes).toList.map Prod.fst ↔ x ∈ writes.map Prod.fst := by
  rw [mem_toList_iff, find?_setAll_empty, Ne, lastWrite?_eq_none_iff, not_not]

/-- The size of a file is the number of different registers written. -/
lemma size_setAll (writes : List (Register × Word)) :
    (empty.setAll writes).size = (writes.map Prod.fst).dedup.length := by
  -- neither list has repetitions, so it is enough that they have the same members
  have perm : ((empty.setAll writes).toList.map Prod.fst).Perm (writes.map Prod.fst).dedup := by
    refine (List.perm_ext_iff_of_nodup (nodup_names _) (List.nodup_dedup _)).2 fun x => ?_
    rw [mem_names_setAll, List.mem_dedup]
  rw [← perm.length_eq, List.length_map]
  rfl

/-- A file lists the registers written, each with the word that it holds. -/
lemma mem_toList_setAll (writes : List (Register × Word)) :
    (x, v) ∈ (empty.setAll writes).toList ↔
      x ∈ writes.map Prod.fst ∧ v = (empty.setAll writes).get x := by
  rw [mem_toList, ← mem_names_setAll, mem_toList_iff, get_eq_getD_find?]
  cases (empty.setAll writes).find? x with
  | none => simp
  | some w => simp [eq_comm]

/-- Files are equal if every register was written last with the same word in both, or never in
both. -/
lemma setAll_eq_iff (writes writes' : List (Register × Word)) :
    empty.setAll writes = empty.setAll writes' ↔
      ∀ x, lastWrite? writes x = lastWrite? writes' x := by
  constructor
  · intro same x
    rw [← find?_setAll_empty, same, find?_setAll_empty]
  · intro same
    apply ext_find?
    intro x
    rw [find?_setAll_empty, find?_setAll_empty, same]

/-- A file is what the last writes to its registers have left. A register holds the word of its last
write, or zero; the size is the number of different registers written; the listing is in strictly
increasing order of the code points of their names, so none is listed twice, and it lists the
registers written, each with the word that it holds. Two sequences of writes lead to the same file
exactly when they lead to the same listing, and this is so exactly when they agree in their last
writes, whatever their order. The seed of a file is a first write to register `p`. -/
theorem laws_of_writes (writes : List (Register × Word)) :
    (∀ x, (empty.setAll writes).get x = (lastWrite? writes x).getD 0) ∧
    (empty.setAll writes).size = (writes.map Prod.fst).dedup.length ∧
    ((empty.setAll writes).toList.Pairwise fun a b => a.1.codePoints < b.1.codePoints) ∧
    ((empty.setAll writes).toList.map Prod.fst).Nodup ∧
    (∀ x v, (x, v) ∈ (empty.setAll writes).toList ↔
      x ∈ writes.map Prod.fst ∧ v = (empty.setAll writes).get x) ∧
    (∀ writes', (empty.setAll writes = empty.setAll writes' ↔
        (empty.setAll writes).toList = (empty.setAll writes').toList) ∧
      (empty.setAll writes = empty.setAll writes' ↔
        ∀ x, lastWrite? writes x = lastWrite? writes' x)) ∧
    ∀ seed, (seeded seed).setAll writes = empty.setAll ((⟨"p"⟩, seed) :: writes) := by
  refine ⟨fun x => ?_, size_setAll writes, ?_, nodup_names _, fun x v => mem_toList_setAll writes,
    ?_, fun _ => rfl⟩
  · rw [get_eq_getD_find?, find?_setAll_empty]
  · exact (empty.setAll writes).sorted.imp Register.codePoints_lt
  · intro writes'
    refine ⟨⟨congrArg toList, fun same => ?_⟩, setAll_eq_iff writes writes'⟩
    apply ext_find?
    intro x
    show (empty.setAll writes).toList.lookup x = (empty.setAll writes').toList.lookup x
    rw [same]

end Registers

end Tandem

import Tandem.Proofs.Machine.Stride
import Tandem.Proofs.Monitor.Transport
import Tandem.Proofs.Program
import Tandem.Proofs.Registers

/-!
# Registers that a program does not use

A register that a program does not use can be written at any time, before a step or after it: the
machine asks for the same, and goes on in the same way (`Machine.next_write`). So on a link the
machine can be watched through a write to that register (`Performer.carries_overwrite`).
-/

namespace Tandem

variable {x y : Register} {v : Word}

/-- A write leaves the value of an operand that is not the register. -/
lemma Operand.value_set {o : Operand} (ne : o ≠ .register x) (r : Registers) (v : Word) :
    o.value (r.set x v) = o.value r := by
  cases o with
  | literal w => rfl
  | register y =>
    have ne' : y ≠ x := fun same => ne (by rw [same])
    exact r.get_set_of_ne v ne'

namespace Machine

variable (m : Machine)

/-- Write a register after a step. -/
def overwrite (x : Register) (v : Word) (after : Progress × Machine) : Progress × Machine :=
  (after.1, after.2.write x v)

/-- A write leaves the value of an operand that is not the register. -/
lemma value_write {o : Operand} (ne : o ≠ .register x) (v : Word) :
    (m.write x v).value o = m.value o :=
  Operand.value_set ne m.registers v

/-- A write leaves the other registers. -/
lemma get_write_of_ne (ne : y ≠ x) (v : Word) : (m.write x v).registers.get y = m.registers.get y :=
  m.registers.get_set_of_ne v ne

/-- Writes to different registers can be made in either order. -/
lemma write_comm (ne : x ≠ y) (v w : Word) : (m.write x v).write y w = (m.write y w).write x v := by
  simp only [write, Registers.set_comm m.registers ne]

/-- A write can be made before an answer is taken into another register, or after it. -/
lemma accept_write (ne : y ≠ x) (v : Word) (policy : Policy) (r : Received) :
    (m.write x v).accept y policy r = overwrite x v (m.accept y policy r) := by
  cases r with
  | terminated => rfl
  | value w =>
    cases policy with
    | store =>
      simp only [accept, overwrite]
      rw [write_comm m ne.symm]
      rfl
    | recover =>
      simp only [accept, get_write_of_ne m ne]
      split
      · rfl
      · rfl

/-- A write to a register that an instruction does not use can be made before it is performed, or
after it. -/
lemma perform_write {i : Instruction} (unused : .register x ∉ i.operands) (v : Word) :
    (m.write x v).perform i = (m.perform i).map (overwrite x v) := by
  cases i with
  | snd o =>
    have ne : o ≠ .register x := by
      simpa [Instruction.operands, eq_comm] using unused
    rw [perform, value_write m ne]
    rfl
  | update u y o =>
    obtain ⟨target, ne⟩ : y ≠ x ∧ o ≠ .register x := by
      simpa [Instruction.operands, eq_comm] using unused
    rw [perform, perform, value_write m ne, get_write_of_ne m target]
    cases u.apply? (m.registers.get y) (m.value o) with
    | none => rfl
    | some w =>
      simp only [Request.map, overwrite]
      rw [write_comm m target.symm]
      rfl
  | rcv y =>
    have target : y ≠ x := by
      simpa [Instruction.operands, eq_comm] using unused
    simp only [perform, Request.map]
    congr
    funext policy r
    exact accept_write m target v policy r
  | jgz o o' =>
    obtain ⟨ne, ne'⟩ : o ≠ .register x ∧ o' ≠ .register x := by
      simpa [Instruction.operands, eq_comm] using unused
    rw [perform, perform, value_write m ne, value_write m ne']
    simp only [Request.map, overwrite]
    split
    · rfl
    · rfl

/-- A register that is not used can be written before a step or after it. -/
lemma next_write (unused : ¬m.program.Uses x) (v : Word) :
    (m.write x v).next = m.next.map (overwrite x v) := by
  unfold next
  rw [show (m.write x v).exit = m.exit from rfl]
  cases m.exit with
  | some e => rfl
  | none =>
    rw [show (m.write x v).program.fetch? (m.write x v).ip = m.program.fetch? m.ip from rfl]
    cases fetch : m.program.fetch? m.ip with
    | none => rfl
    | some i =>
      have unused' : .register x ∉ i.operands := fun mem =>
        unused ⟨i, Program.mem_of_fetch? fetch, mem⟩
      exact perform_write m.tick unused' v

end Machine

/-- Requests can be mapped in one go. -/
lemma Request.map_map {α β γ : Type} (f : α → β) (g : β → γ) (r : Request α) :
    (r.map f).map g = r.map (g ∘ f) := by
  cases r <;> rfl

namespace Performer

/-- Write a register of the machine at work. -/
def overwrite (x : Register) (v : Word) (p : Performer) : Performer :=
  { p with machine := p.machine.write x v }

/-- A register can be written in the step of a run, or in the performer after it. -/
lemma afterTurn_overwrite (after : Progress × Machine) :
    afterTurn (Machine.overwrite x v after) = (afterTurn after).overwrite x v := by
  obtain ⟨progress, m⟩ := after
  cases progress <;> rfl

/-- A register can be written in a single step, or in the performer after it. -/
lemma afterStep_overwrite (left : Nat) (after : Progress × Machine) :
    afterStep left (Machine.overwrite x v after) = (afterStep left after).overwrite x v := by
  obtain ⟨progress, m⟩ := after
  cases progress <;> rfl

/-- No stride changes the program. -/
lemma Stride.program_eq {p q : Performer} {e : Option Event} (stride : p.Stride e q) :
    q.machine.program = p.machine.program := by
  obtain ⟨progress, step⟩ | ⟨same, -⟩ := stride.machine
  · exact step.program_eq
  · rw [same]

/-- A write to a register that the program does not use can be made before a request, or after
it. -/
lemma next_overwrite (p : Performer) (unused : ¬p.machine.program.Uses x) (v : Word) :
    (p.overwrite x v).next = p.next.map (Request.map (overwrite x v)) := by
  have moves := p.machine.next_write unused v
  obtain ⟨m, task⟩ := p
  cases task with
  | stepping left last =>
    cases left with
    | zero => rfl
    | succ left =>
      simp only [next, overwrite, Option.map_some]
      rw [moves, Request.map_map, Request.map_map]
      exact congrArg (fun f => some (Request.map f m.next))
        (funext fun after => afterStep_overwrite left after)
  | executing =>
    simp only [next, overwrite, Option.map_some]
    rw [moves, Request.map_map, Request.map_map]
    exact congrArg (fun f => some (Request.map f m.next))
      (funext fun after => afterTurn_overwrite after)
  | leaving answer => rfl
  | done answer => rfl

/-- On a link, machines can be watched through a write to a register that they do not use. -/
lemma carries_overwrite (x : Register) (v : Word) :
    Carries next next (overwrite x v) fun p => ¬p.machine.program.Uses x where
  commutes unused := next_overwrite _ unused v
  keeps unused request yields := by
    rw [(stride_of_yields request yields).program_eq]
    exact unused

end Performer

end Tandem

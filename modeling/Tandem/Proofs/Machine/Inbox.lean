import Tandem.Proofs.Machine.Mailbox

/-!
# More values in the inbox

A machine over a mailbox does not see the values behind those that it takes. As long as it is not
told that nothing will come, it makes the same steps when more values stand at the end of the inbox
(`Solo.step_extend`), and so it goes on to the same end (`Solo.execute_extend`). If it is told so,
it has taken all values; with more of them it comes to the same point, one step earlier, and goes on
from there. What it has sent is never taken back (`Solo.outbox_prefix_of_steps`).
-/

namespace Tandem

namespace Mailbox

variable {policy : Policy} {box box' : Mailbox} {e : Option Event} {ys : List Word}

/-- The mailbox with more values at the end of its inbox. -/
def extend (box : Mailbox) (ys : List Word) : Mailbox :=
  { box with inbox := box.inbox ++ ys }

/-- A mailbox says that nothing will come when its inbox is empty, and otherwise gives the first
value. -/
lemma receive_cases {r : Received} (receive : channel.receive box = (r, box')) :
    (r = .terminated ∧ box.inbox = [] ∧ box' = box) ∨
      ∃ v rest, r = .value v ∧ box.inbox = v :: rest ∧
        box' = { box with inbox := rest, taken := box.taken + 1 } := by
  cases inbox : box.inbox with
  | nil =>
    have answers : Mailbox.receive box = (.terminated, box) := by rw [Mailbox.receive, inbox]
    cases answers.symm.trans receive
    exact .inl ⟨rfl, rfl, rfl⟩
  | cons v rest =>
    have answers : Mailbox.receive box =
        (.value v, { box with inbox := rest, taken := box.taken + 1 }) := by
      rw [Mailbox.receive, inbox]
    cases answers.symm.trans receive
    exact .inr ⟨v, rest, rfl, rfl, rfl⟩

/-- A mailbox gives the first value of its inbox. -/
lemma receive_of_cons {v : Word} {rest : List Word} (inbox : box.inbox = v :: rest) :
    channel.receive box = (.value v, { box with inbox := rest, taken := box.taken + 1 }) := by
  change Mailbox.receive box = _
  rw [Mailbox.receive, inbox]

/-- Unless it says that nothing will come, a mailbox serves the same with more values in its
inbox. -/
lemma serves_extend (serves : channel.Serves policy box e box')
    (goes : e ≠ some (.received .terminated)) :
    channel.Serves policy (box.extend ys) e (box'.extend ys) := by
  cases serves with
  | nothing => exact .nothing
  | send => exact .send
  | receive receive store =>
    obtain ⟨rfl, -, -⟩ | ⟨v, rest, rfl, inbox, rfl⟩ := receive_cases receive
    · exact absurd rfl goes
    · have inbox' : (box.extend ys).inbox = v :: (rest ++ ys) := by simp [extend, inbox]
      exact .receive (receive_of_cons inbox') store
  | close => exact .close

/-- What was taken and what is in the inbox is always the same number of values. -/
lemma taken_add_length_of_serves (serves : channel.Serves policy box e box') :
    box'.taken + box'.inbox.length = box.taken + box.inbox.length := by
  cases serves with
  | receive receive =>
    obtain ⟨-, -, rfl⟩ | ⟨v, rest, -, inbox, rfl⟩ := receive_cases receive
    · rfl
    · rw [inbox, List.length_cons, ← Nat.add_assoc, Nat.add_right_comm]
  | _ => rfl

/-- A mailbox takes nothing back that was sent. -/
lemma outbox_prefix_of_serves (serves : channel.Serves policy box e box') :
    box.outbox.toList <+: box'.outbox.toList := by
  cases serves with
  | @send v => exact ⟨[v], by simp [channel]⟩
  | receive receive =>
    obtain ⟨-, -, rfl⟩ | ⟨v, rest, -, -, rfl⟩ := receive_cases receive
    · exact List.prefix_rfl
    · exact List.prefix_rfl
  | _ => exact List.prefix_rfl

end Mailbox

namespace Solo

section Steps

variable {σ : Type} {c : Channel σ} {s t u : Solo σ} {q : Progress} {n : Nat}

/-- After a step that leaves the machine running the other steps are made. -/
lemma steps_succ_of_running (step : s.step c = (.running, t)) (n : Nat) :
    s.steps c (n + 1) = t.steps c n := by
  rw [steps, step]

/-- After a step that stops the machine no other step is made. -/
lemma steps_succ_of_stopped (step : s.step c = (q, t)) (stops : q ≠ .running) (n : Nat) :
    s.steps c (n + 1) = (q, t) := by
  rw [steps, step]
  cases q with
  | running => exact absurd rfl stops
  | exited x => rfl
  | failed f => rfl

/-- If the machine is running after so many steps, it was so after the first. -/
lemma running_of_steps_succ (goes : s.steps c (n + 1) = (.running, u)) :
    ∃ t, s.step c = (.running, t) ∧ t.steps c n = (.running, u) := by
  cases step : s.step c with
  | mk p t =>
    by_cases running : p = .running
    · subst running
      rw [steps_succ_of_running step] at goes
      exact ⟨t, rfl, goes⟩
    · rw [steps_succ_of_stopped step running] at goes
      cases goes
      exact absurd rfl running

/-- Some more steps go on where steps have left the machine running. -/
lemma steps_add (goes : s.steps c n = (.running, u)) (k : Nat) :
    s.steps c (n + k) = u.steps c k := by
  induction n generalizing s with
  | zero =>
    cases goes
    rw [Nat.zero_add]
  | succ n ih =>
    obtain ⟨t, step, goes⟩ := running_of_steps_succ goes
    rw [Nat.add_right_comm, steps_succ_of_running step]
    exact ih goes

/-- A run can be cut after steps that leave the machine running. -/
lemma execute_add (goes : s.steps c n = (.running, u)) (fuel : Nat) :
    s.execute c (n + fuel) = u.execute c fuel := by
  induction n generalizing s with
  | zero =>
    cases goes
    rw [Nat.zero_add]
  | succ n ih =>
    obtain ⟨t, step, goes⟩ := running_of_steps_succ goes
    rw [Nat.add_right_comm, execute, step]
    exact ih goes

/-- What every step keeps is kept by some of them. -/
lemma steps_preserves {P : Solo σ → Prop} (keeps : ∀ {s p t}, s.step c = (p, t) → P s → P t)
    (goes : s.steps c n = (q, t)) (holds : P s) : P t := by
  induction n generalizing s with
  | zero =>
    cases goes
    exact holds
  | succ n ih =>
    cases step : s.step c with
    | mk p u =>
      by_cases running : p = .running
      · subst running
        rw [steps_succ_of_running step] at goes
        exact ih goes (keeps step holds)
      · rw [steps_succ_of_stopped step running] at goes
        cases goes
        exact keeps step holds

/-- What a machine reaches, it reaches in a number of steps. -/
lemma exists_steps_of_reaches (reaches : s.Reaches c t) : ∃ n, s.steps c n = (.running, t) := by
  induction reaches using Relation.ReflTransGen.head_induction_on with
  | refl => exact ⟨0, rfl⟩
  | head step _ ih =>
    obtain ⟨n, goes⟩ := ih
    exact ⟨n + 1, (steps_succ_of_running step n).trans goes⟩

/-- While the machine is running, every step is counted. -/
lemma running_of_steps (goes : s.steps c n = (.running, u)) (running : s.machine.exit = none) :
    u.machine.exit = none ∧ u.machine.steps = s.machine.steps + n := by
  induction n generalizing s with
  | zero =>
    cases goes
    exact ⟨running, rfl⟩
  | succ n ih =>
    obtain ⟨⟨m, channel⟩, step, goes⟩ := running_of_steps_succ goes
    obtain ⟨policy, e, made, -⟩ := step_of_step_eq step
    obtain ⟨exit, count⟩ := ih goes made.exit_of_running
    have one : m.steps = s.machine.steps + 1 := made.steps_of_running
    refine ⟨exit, ?_⟩
    rw [count, one, Nat.add_assoc, Nat.add_comm 1 n]

end Steps

variable {s t u : Solo Mailbox} {q : Progress} {n fuel : Nat} {ys : List Word}
  {r : Except Fault Outcome}

/-- More values at the end of the inbox. -/
def extend (s : Solo Mailbox) (ys : List Word) : Solo Mailbox :=
  ⟨s.machine, s.channel.extend ys⟩

/-- A step in which the machine is not told that nothing will come is the same with more values. -/
lemma step_extend (step : s.step Mailbox.channel = (q, t)) (goes : q ≠ .exited .terminated)
    (ys : List Word) : (s.extend ys).step Mailbox.channel = (q, t.extend ys) := by
  obtain ⟨m, box⟩ := t
  obtain ⟨policy, e, made, serves⟩ := step_of_step_eq step
  have silent : e ≠ some (.received .terminated) := by
    rintro rfl
    exact goes made.exited_of_terminated
  exact step_eq made (Mailbox.serves_extend serves silent)

/-- Steps that leave the machine running are the same with more values. -/
lemma steps_extend (goes : s.steps Mailbox.channel n = (.running, u)) (ys : List Word) :
    (s.extend ys).steps Mailbox.channel n = (.running, u.extend ys) := by
  induction n generalizing s with
  | zero =>
    cases goes
    rfl
  | succ n ih =>
    obtain ⟨t, step, goes⟩ := running_of_steps_succ goes
    rw [steps_succ_of_running (step_extend step nofun ys)]
    exact ih goes

/-- A run that was not told that nothing will come is the same with more values in the inbox. -/
lemma execute_extend (ends : s.execute Mailbox.channel fuel = some (r, t))
    (untold : ∀ outcome, r = .ok outcome → outcome.exit ≠ .terminated) (ys : List Word) :
    (s.extend ys).execute Mailbox.channel fuel = some (r, t.extend ys) := by
  induction fuel generalizing s with
  | zero => cases ends
  | succ fuel ih =>
    rw [execute] at ends ⊢
    cases step : s.step Mailbox.channel with
    | mk p u =>
      rw [step] at ends
      cases p with
      | running =>
        have ne : Progress.running ≠ .exited .terminated := by simp
        rw [step_extend step ne]
        exact ih ends
      | exited x =>
        cases ends
        have ne : Progress.exited x ≠ .exited .terminated := by
          rintro ⟨⟩
          exact untold _ rfl rfl
        rw [step_extend step ne]
        rfl
      | failed f =>
        cases ends
        have ne : Progress.failed f ≠ .exited .terminated := by simp
        rw [step_extend step ne]
        rfl

/-- A machine that is running is told that nothing will come by an empty inbox, and stops where it
stands. -/
lemma terminated_of_step (running : s.machine.exit = none)
    (step : s.step Mailbox.channel = (.exited .terminated, t)) :
    s.channel.inbox = [] ∧ t = ⟨{ s.machine.tick with exit := some .terminated }, s.channel⟩ := by
  obtain ⟨m, box⟩ := t
  obtain ⟨policy, e, made, serves⟩ := step_of_step_eq step
  cases made with
  | stopped exit => cases running.symm.trans exit
  | terminate fetches =>
    cases serves with
    | receive receive =>
      obtain ⟨-, empty, rfl⟩ | ⟨v, rest, ⟨⟩, -⟩ := Mailbox.receive_cases receive
      exact ⟨empty, rfl⟩

/-- A run that was told that nothing will come was running until then. -/
lemma steps_of_terminated {outcome : Outcome} (running : s.machine.exit = none)
    (ends : s.execute Mailbox.channel fuel = some (.ok outcome, t))
    (terminated : outcome.exit = .terminated) :
    ∃ n u, outcome.steps = s.machine.steps + n + 1 ∧ s.steps Mailbox.channel n = (.running, u) ∧
      u.machine.exit = none ∧ u.channel.inbox = [] ∧
      t = close Mailbox.channel ⟨{ u.machine.tick with exit := some .terminated }, u.channel⟩ := by
  obtain ⟨u, reaches, last⟩ := ends_of_execute ends
  obtain ⟨n, goes⟩ := exists_steps_of_reaches reaches
  obtain ⟨exit, count⟩ := running_of_steps goes running
  cases last with
  | exited step =>
    cases terminated
    obtain ⟨empty, rfl⟩ := terminated_of_step exit step
    exact ⟨n, u, congrArg (· + 1) count, goes, exit, empty, rfl⟩

/-- Every value is taken or still in the inbox. -/
lemma taken_add_length_of_steps (goes : s.steps Mailbox.channel n = (q, t)) :
    t.channel.taken + t.channel.inbox.length = s.channel.taken + s.channel.inbox.length := by
  refine steps_preserves
    (P := fun t => t.channel.taken + t.channel.inbox.length =
      s.channel.taken + s.channel.inbox.length) ?_ goes rfl
  rintro s p ⟨m, box⟩ step same
  obtain ⟨policy, e, -, serves⟩ := step_of_step_eq step
  exact (Mailbox.taken_add_length_of_serves serves).trans same

/-- Closing leaves what was sent. -/
lemma outbox_close (s : Solo Mailbox) :
    (s.close Mailbox.channel).channel.outbox = s.channel.outbox := rfl

/-- A step takes nothing back that was sent. -/
lemma outbox_prefix_of_step (step : s.step Mailbox.channel = (q, t)) :
    s.channel.outbox.toList <+: t.channel.outbox.toList := by
  obtain ⟨m, box⟩ := t
  obtain ⟨policy, e, -, serves⟩ := step_of_step_eq step
  exact Mailbox.outbox_prefix_of_serves serves

/-- What was sent is never taken back. -/
lemma outbox_prefix_of_steps (goes : s.steps Mailbox.channel n = (q, t)) :
    s.channel.outbox.toList <+: t.channel.outbox.toList := by
  refine steps_preserves (P := fun t => s.channel.outbox.toList <+: t.channel.outbox.toList) ?_ goes
    List.prefix_rfl
  intro u p v step sent
  exact sent.trans (outbox_prefix_of_step step)

/-- A run takes nothing back that was sent. -/
lemma outbox_prefix_of_execute (ends : s.execute Mailbox.channel fuel = some (r, t)) :
    s.channel.outbox.toList <+: t.channel.outbox.toList := by
  obtain ⟨u, reaches, last⟩ := ends_of_execute ends
  obtain ⟨n, goes⟩ := exists_steps_of_reaches reaches
  have before := outbox_prefix_of_steps goes
  cases last with
  | exited step =>
    rw [outbox_close]
    exact before.trans (outbox_prefix_of_step step)
  | failed step =>
    rw [outbox_close]
    exact before.trans (outbox_prefix_of_step step)

/-- A machine about to run a program, over a mailbox with the given values. -/
def fed (p : Program) (registers : Registers) (inbox : List Word) : Solo Mailbox :=
  ⟨{ program := p, registers }, { inbox, policy := .store }⟩

/-- A run depends on more values only once it has taken all those before. If the run over `xs` halts
or fails, then the run over `xs ++ ys` is the same, and leaves `ys`. If the run over `xs`
terminates, it has taken all of `xs`; then the run over `xs ++ ys` comes, one step earlier, to the
point where the other one stopped, and has sent the same values. These stay the first ones that it
sends, whatever it does from there. -/
theorem execute_prefix_monotone (p : Program) (registers : Registers) (xs ys : List Word)
    (fuel : Nat) (result : Except Fault Outcome) (t : Solo Mailbox)
    (ends : (fed p registers xs).execute Mailbox.channel fuel = some (result, t)) :
    ((∃ outcome, result = .ok outcome ∧ outcome.exit = .halted) ∨
        (∃ index, result = .error (.moduloByZero index)) →
      (fed p registers (xs ++ ys)).execute Mailbox.channel fuel =
        some (result, ⟨t.machine, { t.channel with inbox := t.channel.inbox ++ ys }⟩)) ∧
    ∀ outcome, result = .ok outcome → outcome.exit = .terminated →
      t.channel.inbox = [] ∧ t.channel.taken = xs.length ∧
      ∃ n u, outcome.steps = n + 1 ∧
        (fed p registers (xs ++ ys)).steps Mailbox.channel n = (.running, u) ∧
        u.machine = { t.machine with exit := none, steps := n } ∧
        u.channel.outbox = t.channel.outbox ∧
        (∀ k q v, n ≤ k → (fed p registers (xs ++ ys)).steps Mailbox.channel k = (q, v) →
          t.channel.outbox.toList <+: v.channel.outbox.toList) ∧
        ∀ fuel' result' t',
          (fed p registers (xs ++ ys)).execute Mailbox.channel fuel' = some (result', t') →
          t.channel.outbox.toList <+: t'.channel.outbox.toList := by
  have more : fed p registers (xs ++ ys) = (fed p registers xs).extend ys := rfl
  rw [more]
  refine ⟨fun untold => execute_extend ends ?_ ys, ?_⟩
  · rintro outcome rfl terminated
    obtain ⟨_, same, halted⟩ | ⟨_, failed⟩ := untold
    · cases same
      cases halted.symm.trans terminated
    · cases failed
  · rintro outcome rfl terminated
    -- up to the step in which it is told that nothing will come, the machine makes the steps that
    -- it makes with more values
    obtain ⟨n, u, count, goes, exit, empty, rfl⟩ := steps_of_terminated rfl ends terminated
    have taken : u.channel.taken + u.channel.inbox.length = 0 + xs.length :=
      taken_add_length_of_steps goes
    have counted : u.machine.steps = 0 + n := (running_of_steps goes rfl).2
    have count' : outcome.steps = 0 + n + 1 := count
    have goes' := steps_extend goes ys
    rw [Nat.zero_add] at counted count' taken
    rw [empty] at taken
    refine ⟨empty, taken, n, u.extend ys, count', goes', ?_, rfl, ?_, ?_⟩
    · rw [← counted, ← exit]
      rfl
    · intro k q v le later
      obtain ⟨l, rfl⟩ := Nat.exists_eq_add_of_le le
      rw [steps_add goes'] at later
      have kept : (u.extend ys).channel.outbox.toList <+: v.channel.outbox.toList :=
        outbox_prefix_of_steps later
      exact kept
    · intro fuel' result' t' later
      -- the bound may be lower than the number of steps made up to here, so the run is taken with a
      -- higher one
      have rest := (execute_add goes' fuel').symm.trans (execute_mono later (Nat.le_add_left _ _))
      have kept : (u.extend ys).channel.outbox.toList <+: t'.channel.outbox.toList :=
        outbox_prefix_of_execute rest
      exact kept

/-- The program doubles the values that it receives. Over one value it sends one and terminates in
its fifth step; over two it has come to the same point after four. A program without the jump
halts. -/
theorem execute_prefix_monotone_doubling :
    (∃ outcome t u,
      (fed ⟨#[.rcv ⟨"a"⟩, .update .add ⟨"a"⟩ (.register ⟨"a"⟩), .snd (.register ⟨"a"⟩),
        .jgz (.literal 1) (.literal (-3))]⟩ .empty [7]).execute Mailbox.channel 9 =
          some (.ok outcome, t) ∧
      outcome.exit = .terminated ∧ t.channel.taken = 1 ∧ outcome.steps = 5 ∧
      (fed ⟨#[.rcv ⟨"a"⟩, .update .add ⟨"a"⟩ (.register ⟨"a"⟩), .snd (.register ⟨"a"⟩),
        .jgz (.literal 1) (.literal (-3))]⟩ .empty [7, 8]).steps Mailbox.channel 4 = (.running, u) ∧
      u.machine = { t.machine with exit := none, steps := 4 } ∧ u.channel.outbox = #[14]) ∧
    ∃ outcome t,
      (fed ⟨#[.rcv ⟨"a"⟩, .snd (.register ⟨"a"⟩)]⟩ .empty [7]).execute Mailbox.channel 9 =
        some (.ok outcome, t) ∧ outcome.exit = .halted ∧
      (fed ⟨#[.rcv ⟨"a"⟩, .snd (.register ⟨"a"⟩)]⟩ .empty [7, 8]).execute Mailbox.channel 9 =
        some (.ok outcome, ⟨t.machine, { t.channel with inbox := t.channel.inbox ++ [8] }⟩) := by
  constructor
  · obtain ⟨-, told⟩ := execute_prefix_monotone ⟨#[.rcv ⟨"a"⟩, .update .add ⟨"a"⟩ (.register ⟨"a"⟩),
      .snd (.register ⟨"a"⟩), .jgz (.literal 1) (.literal (-3))]⟩ .empty [7] [8] 9 _ _ rfl
    obtain ⟨-, taken, n, u, count, goes, machine, outbox, -⟩ := told _ rfl rfl
    cases count
    exact ⟨_, _, u, rfl, rfl, taken, rfl, goes, machine, outbox⟩
  · obtain ⟨untold, -⟩ :=
      execute_prefix_monotone ⟨#[.rcv ⟨"a"⟩, .snd (.register ⟨"a"⟩)]⟩ .empty [7] [8] 9 _ _ rfl
    exact ⟨_, _, rfl, rfl, untold (.inl ⟨_, rfl, rfl⟩)⟩

end Solo

end Tandem

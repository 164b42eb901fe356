import Tandem.Proofs.Monitor.Confluence

/-!
# Threads that run down

If the states of obedient threads have a rank that goes down with every request that is served
(`Ranked`), then the threads have a budget of turns. A turn that serves a request lowers a rank; any
other turn brings the threads nearer to sleep; and a thread that wakes up for no reason is given one
turn more, in which it falls asleep again. So a schedule has no more turns than the budget, apart
from those given back (`Paced.follow`), and threads that take turns settle (`Paced.settle`).
-/

namespace Tandem

/-- The move is a turn of a side. -/
def Move.isTurn : Move → Bool
  | .act _ => true
  | .rouse _ => false

/-- The move is a waking for no reason. -/
def Move.isWaking : Move → Bool
  | .act _ => false
  | .rouse _ => true

variable {α : Type} {next : α → Option (Request α)} {P : α → Prop} {rank : α → Nat}

/-- Among the states that satisfy `P`, every request that is served leads to a lower rank. -/
structure Ranked (next : α → Option (Request α)) (P : α → Prop) (rank : α → Nat) : Prop where
  keeps {a b r e} : P a → next a = some r → r.Yields Link.policy e b → P b
  lt {a b r e} : P a → next a = some r → r.Yields Link.policy e b → rank b < rank a

namespace Monitor

variable {m m' : Monitor α} {i : Side} {moves : List Move}

/-- A bound on the turns that the threads can still take, if nobody wakes up for no reason. -/
def budget (rank : α → Nat) (m : Monitor α) : Nat :=
  7 * (rank (m.state .zero) + rank (m.state .one)) + m.weight

/-- The budget is made of the ranks of both sides, whichever comes first. -/
lemma budget_eq (rank : α → Nat) (m : Monitor α) (i : Side) :
    m.budget rank = 7 * (rank (m.state i) + rank (m.state i.peer)) + m.weight := by
  cases i with
  | zero => rfl
  | one => rw [budget, Nat.add_comm (rank _)]; rfl

/-- What is known of the threads wherever a schedule leads. -/
structure Paced (next : α → Option (Request α)) (P : α → Prop) (m : Monitor α) : Prop where
  sound : m.Sound next
  holds : ∀ i, P (m.state i)

/-- Threads about to begin are paced. -/
lemma paced_fresh {states : Both α} (holds : ∀ i, P (states.get i)) :
    (fresh states).Paced next P where
  sound := sound_fresh states
  holds i := by
    rw [state_fresh]
    exact holds i

/-- Waking up for no reason keeps threads paced. -/
lemma Paced.rouse (paced : m.Paced next P) (asleep : m.phase i = .asleep) :
    (m.put i (m.state i) .awake).Paced next P where
  sound := paced.sound.rouse asleep
  holds j := by
    rcases Side.eq_or_eq_peer i j with rfl | rfl
    · simpa using paced.holds j
    · simpa using paced.holds i.peer

/-- Waking up for no reason gives one turn more. -/
lemma budget_rouse (rank : α → Nat) (asleep : m.phase i = .asleep) :
    (m.put i (m.state i) .awake).budget rank = m.budget rank + 1 := by
  rw [budget_eq rank _ i, budget_eq rank m i, weight_eq _ i, weight_eq m i]
  simp only [state_put_self, state_put_peer, phase_put_self, phase_put_peer, asleep, Phase.weight]
  omega

section Moves

variable (obedient : Obedient next) (ranked : Ranked next P rank) (paced : m.Paced next P)

include obedient ranked paced

/-- A turn keeps threads paced, and lowers the budget. -/
lemma Paced.act (act : m.act next i = some m') :
    m'.Paced next P ∧ m'.budget rank < m.budget rank := by
  have turn := turn_of_act act
  have sound' := turn.sound obedient paced.sound
  rcases turn.view paced.sound.wakeful paced.sound.quiet with ⟨same, lighter⟩ | ⟨e, acts, view⟩
  · -- the turn serves no request, so a side comes nearer to sleep
    have states : ∀ j, m'.state j = m.state j := by
      intro j
      rw [← states_view, same, states_view]
    refine ⟨⟨sound', fun j => ?_⟩, ?_⟩
    · rw [states]
      exact paced.holds j
    · rw [budget, budget, states, states]
      omega
  · -- the turn lowers a rank, which counts for more than both phases can weigh
    obtain ⟨r, event, request, yields, -⟩ := acts.yields
    rw [states_view] at request
    have self : m'.state i = e.after := by rw [← states_view, view, View.states_apply_self]
    rw [← self] at yields
    have lower := ranked.lt (paced.holds i) request yields
    have light := m'.weight_le
    refine ⟨⟨sound', fun j => ?_⟩, ?_⟩
    · rcases Side.eq_or_eq_peer i j with rfl | rfl
      · exact ranked.keeps (paced.holds _) request yields
      · rw [turn.state_peer]
        exact paced.holds _
    · rw [budget_eq rank m' i, budget_eq rank m i, turn.state_peer]
      omega

/-- A schedule takes its turns from the budget, and wakings for no reason add to it. -/
lemma Paced.follow (follow : m.follow next moves = some m') :
    m'.Paced next P ∧
      moves.countP Move.isTurn + m'.budget rank ≤ m.budget rank + moves.countP Move.isWaking := by
  induction moves generalizing m with
  | nil =>
    cases follow
    exact ⟨paced, Nat.le_of_eq (Nat.add_comm _ _)⟩
  | cons first rest ih =>
    obtain ⟨m₁, move, later⟩ := Option.bind_eq_some_iff.1 follow
    cases first with
    | act i =>
      obtain ⟨paced₁, lower⟩ := paced.act obedient ranked move
      obtain ⟨paced', le⟩ := ih paced₁ later
      have turns : (Move.act i :: rest).countP Move.isTurn = rest.countP Move.isTurn + 1 :=
        List.countP_cons_of_pos rfl
      have wakings : (Move.act i :: rest).countP Move.isWaking = rest.countP Move.isWaking :=
        List.countP_cons_of_neg (by simp [Move.isWaking])
      exact ⟨paced', by omega⟩
    | rouse i =>
      -- a waking adds the one turn that it takes to fall asleep again
      obtain ⟨asleep, rfl⟩ := rouse_eq_some move
      have more := budget_rouse rank asleep
      obtain ⟨paced', le⟩ := ih (paced.rouse asleep) later
      have turns : (Move.rouse i :: rest).countP Move.isTurn = rest.countP Move.isTurn :=
        List.countP_cons_of_neg (by simp [Move.isTurn])
      have wakings : (Move.rouse i :: rest).countP Move.isWaking = rest.countP Move.isWaking + 1 :=
        List.countP_cons_of_pos rfl
      exact ⟨paced', by omega⟩

/-- Threads settle if they may take more turns than their budget. -/
lemma Paced.settle {fuel : Nat} (enough : m.budget rank < fuel) :
    ∃ m', m.settle next fuel = some m' := by
  refine settle_of_descent (D := fun bound m => m.Paced next P ∧ m.budget rank = bound) ?_
    ⟨paced, rfl⟩ enough
  rintro _ m m' i ⟨paced, rfl⟩ act
  obtain ⟨paced', lower⟩ := paced.act obedient ranked act
  exact ⟨m'.budget rank, lower, paced', rfl⟩

end Moves

end Monitor

end Tandem

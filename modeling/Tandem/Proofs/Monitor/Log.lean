import Tandem.Proofs.Monitor.Transport

/-!
# Threads that keep a log

Threads can be made to keep a log of what is seen of them (`logged`). Forgetting the log is a map
that goes along with all requests, so every schedule can be followed with logs, and then these are
the events of the sides (`exists_logged`). What is known of the states at rest thereby holds of the
events, too (`same_of_atRest`).
-/

namespace Tandem

namespace Request

variable {α : Type}

/-- A request after which the event that it shows is written to a log. -/
def logged (log : List Event) : Request α → Request (α × List Event)
  | .work after => .work (after, log)
  | .send v after => .send v (after, log ++ [.sent v])
  | .receive after => .receive fun policy r => (after policy r, log ++ [.received r])
  | .close after => .close (after, log ++ [.closed])

/-- A request with a log asks for the same. -/
lemma map_fst_logged (log : List Event) (r : Request α) : (r.logged log).map Prod.fst = r := by
  cases r <;> rfl

/-- The event that is seen is written to the log. -/
lemma Yields.log_eq {policy : Policy} {log : List Event} {r : Request α} {e : Option Event}
    {b : α × List Event} (yields : (r.logged log).Yields policy e b) : b.2 = log ++ e.toList := by
  cases r with
  | work after =>
    cases yields
    exact (List.append_nil log).symm
  | send v after =>
    cases yields
    rfl
  | receive after =>
    cases yields
    rfl
  | close after =>
    cases yields
    rfl

end Request

section Logged

variable {α : Type} {next : α → Option (Request α)}

/-- Threads that do what other threads do, and keep a log of it. -/
def logged (next : α → Option (Request α)) (a : α × List Event) :
    Option (Request (α × List Event)) :=
  (next a.1).map (Request.logged a.2)

/-- Threads with a log do what they do without it. -/
lemma yields_of_logged {a b : α × List Event} {r : Request (α × List Event)} {e : Option Event}
    (request : logged next a = some r) (yields : r.Yields Link.policy e b) :
    ∃ r, next a.1 = some r ∧ r.Yields Link.policy e b.1 := by
  obtain ⟨r, asked, rfl⟩ := Option.map_eq_some_iff.1 request
  have yields' := yields.map Prod.fst
  rw [Request.map_fst_logged] at yields'
  exact ⟨r, asked, yields'⟩

/-- Forgetting the log goes along with all requests. -/
lemma carries_fst (next : α → Option (Request α)) :
    Carries (logged next) next Prod.fst fun _ => True where
  commutes := by
    intro a _
    rw [logged, Option.map_map]
    cases next a.1 with
    | none => rfl
    | some r => exact congrArg some (Request.map_fst_logged a.2 r).symm
  keeps _ _ _ := trivial

/-- A function that goes along with threads also goes along with their logs. -/
lemma Carries.logged {f : α → α} {P : α → Prop} (carries : Carries next next f P) :
    Carries (logged next) (logged next) (Prod.map f id) fun a => P a.1 where
  commutes := by
    intro a holds
    have commutes := carries.commutes holds
    rw [Tandem.logged, Tandem.logged, Prod.map_fst, commutes, Option.map_map, Option.map_map]
    cases next a.1 with
    | none => rfl
    | some r => cases r <;> rfl
  keeps := by
    intro a r e b holds request yields
    obtain ⟨r, asked, yields⟩ := yields_of_logged request yields
    exact carries.keeps holds asked yields

/-- A thread that only closes its end does so with a log, too. -/
lemma Spent.logged {a : α} (spent : Spent next a) (log : List Event) :
    Spent (logged next) (a, log) := by
  intro r request
  obtain ⟨r, asked, rfl⟩ := Option.map_eq_some_iff.1 request
  obtain ⟨b, rfl⟩ := spent r asked
  exact ⟨_, rfl⟩

/-- Obedient threads stay so with a log. -/
lemma Obedient.logged (obedient : Obedient next) : Obedient (logged next) where
  refused := by
    intro a after request
    obtain ⟨r, asked, eq⟩ := Option.map_eq_some_iff.1 request
    cases r with
    | receive after =>
      cases eq
      exact (obedient.refused asked).logged _
    | _ => cases eq
  closed := by
    intro a b request
    obtain ⟨r, asked, eq⟩ := Option.map_eq_some_iff.1 request
    cases r with
    | close after =>
      cases eq
      rw [Tandem.logged, obedient.closed asked]
      rfl
    | _ => cases eq

namespace Monitor

variable {states : Both α} {moves moves' : List Move} {m m' : Monitor α}

/-- Threads about to begin, with empty logs. -/
def freshLogged (states : Both α) : Monitor (α × List Event) :=
  fresh (states.map fun a => (a, []))

/-- Threads about to begin with logs are just about to begin. -/
lemma map_freshLogged (states : Both α) : (freshLogged states).map Prod.fst = fresh states := rfl

/-- In a schedule each side logs its own events. -/
lemma log_of_follow {l : Monitor (α × List Event)}
    (follow : (freshLogged states).follow (logged next) moves = some l) (i : Side) :
    (l.state i).2 = ((freshLogged states).history (logged next) moves).eventsBy i := by
  refine follow_records (P := fun h l => ∀ i, (l.state i).2 = h.eventsBy i) ?_ ?_
    (h := []) follow ?_ i
  · intro h l l' j e turn log i
    rw [History.eventsBy_append, ← log i]
    obtain rfl | rfl := Side.eq_or_eq_peer j i
    · rw [History.eventsBy_single_self]
      obtain ⟨same, rfl⟩ | ⟨r, request, yields⟩ := turn.state_self
      · rw [same]
        exact (List.append_nil _).symm
      · obtain ⟨r, -, rfl⟩ := Option.map_eq_some_iff.1 request
        exact yields.log_eq
    · rw [History.eventsBy_single_of_ne (Side.ne_peer j), turn.state_peer, List.append_nil]
  · intro h l j asleep log i
    obtain rfl | rfl := Side.eq_or_eq_peer j i
    · simpa using log i
    · simpa using log j.peer
  · intro i
    cases i <;> rfl

/-- Every schedule can be followed with logs, and then these are the events of the sides. -/
lemma exists_logged (follow : (fresh states).follow next moves = some m) :
    ∃ l, (freshLogged states).follow (logged next) moves = some l ∧ l.map Prod.fst = m ∧
      ∀ i, l.state i = (m.state i, ((fresh states).history next moves).eventsBy i) := by
  have carried := follow_map (m := freshLogged states) (carries_fst next) (fun _ => trivial) moves
  have recorded := history_map (m := freshLogged states) (carries_fst next) (fun _ => trivial) moves
  rw [map_freshLogged] at carried recorded
  rw [follow] at carried
  obtain ⟨l, goes, rfl⟩ := Option.map_eq_some_iff.1 carried.symm
  refine ⟨l, goes, rfl, fun i => ?_⟩
  rw [recorded, ← log_of_follow goes i, state_map]

/-- Threads that cannot be told apart at the start, up to a function that goes along with their
requests, have shown the same events at rest and cannot be told apart there. -/
lemma same_of_atRest {f : α → α} {P : α → Prop} (obedient : Obedient next)
    (carries : Carries next next f P) (holds : ∀ i, P (states.get i))
    (same : f (states.get .zero) = f (states.get .one))
    (follow : (fresh states).follow next moves = some m) (rest : m.AtRest next) :
    f (m.state .zero) = f (m.state .one) ∧
      ((fresh states).history next moves).eventsBy .zero =
        ((fresh states).history next moves).eventsBy .one := by
  obtain ⟨l, goes, rfl, logs⟩ := exists_logged follow
  have rests : l.AtRest (logged next) :=
    (atRest_map_iff fun _ => (carries_fst next).commutes trivial).1 rest
  have holds' : ∀ i, P ((states.map fun a => (a, ([] : List Event))).get i).1 := by
    intro i
    rw [Both.get_map]
    exact holds i
  have same' : Prod.map f id (states.zero, ([] : List Event)) = Prod.map f id (states.one, []) :=
    congrArg (·, []) same
  have states_eq := map_state_eq_of_atRest obedient.logged carries.logged holds' same' goes rests
  rw [logs, logs] at states_eq
  exact Prod.mk.inj states_eq

end Monitor

end Logged

end Tandem

import Tandem.Channel.Mailbox
import Tandem.Proofs.Machine.Run

/-!
# Runs over a mailbox

A mailbox answers with the values that it was given and then with nothing more. So it can serve a
run of a machine whenever the values received in the run are the first ones in its inbox, and all of
them if the machine was told in the end that nothing will come. The run over the mailbox is then the
run itself (`Run.execute`), and the mailbox keeps what was sent in it.
-/

namespace Tandem

namespace Mailbox

variable {box : Mailbox} {es : List Event} {e : Option Event}

/-- The mailbox after it has served some events. -/
def after (box : Mailbox) (es : List Event) : Mailbox :=
  { box with
    inbox := box.inbox.drop (Event.receivedIn es).length
    taken := box.taken + (Event.receivedIn es).length
    outbox := box.outbox ++ (Event.sentIn es).toArray }

/-- The mailbox has the values that are received in some events, and no others if they tell that
nothing will come. -/
structure Provides (box : Mailbox) (es : List Event) : Prop where
  first : Event.receivedIn es <+: box.inbox
  all : .received .terminated ∈ es → Event.receivedIn es = box.inbox

/-- A mailbox that has served nothing is as it was. -/
@[simp] lemma after_nil (box : Mailbox) : box.after [] = box := by
  simp [after, Event.receivedIn, Event.sentIn]

/-- A value sent is put into the outbox. -/
lemma after_sent (box : Mailbox) (es : List Event) (v : Word) :
    box.after (es ++ [.sent v]) = channel.send (box.after es) v := by
  simp [after, channel]

/-- The answer that nothing will come leaves the mailbox. -/
lemma after_terminated (box : Mailbox) (es : List Event) :
    box.after (es ++ [.received .terminated]) = box.after es := by
  simp [after]

/-- A mailbox that has a value next gives it. -/
lemma receive_after {v : Word}
    (fits : Event.receivedIn (es ++ [.received (.value v)]) <+: box.inbox) :
    receive (box.after es) = (.value v, box.after (es ++ [.received (.value v)])) := by
  obtain ⟨rest, split⟩ := fits
  have inbox : box.inbox = Event.receivedIn es ++ v :: rest := by
    simpa using split.symm
  have front : (box.after es).inbox = v :: rest := by
    simp [after, inbox]
  rw [receive, front]
  simp [after, inbox, Nat.add_assoc]

/-- A mailbox of which all values were received says that nothing will come. -/
lemma receive_after_of_all (all : Event.receivedIn es = box.inbox) :
    receive (box.after es) = (.terminated, box.after es) := by
  have empty : (box.after es).inbox = [] := by
    simp [after, all]
  rw [receive, empty]

/-- If what is received is at the front of the inbox, so is what was received before. -/
lemma fits_of_append {more : List Event} (fits : Event.receivedIn (es ++ more) <+: box.inbox) :
    Event.receivedIn es <+: box.inbox := by
  rw [Event.receivedIn_append] at fits
  exact (List.prefix_append _ _).trans fits

/-- A mailbox serves an event if the values received so far are the first ones in its inbox. -/
lemma serves_after (store : box.policy = .store) (stays : e ≠ some .closed)
    (fits : Event.receivedIn (es ++ e.toList) <+: box.inbox)
    (ended : e = some (.received .terminated) → Event.receivedIn es = box.inbox) :
    channel.Serves .store (box.after es) e (box.after (es ++ e.toList)) := by
  cases e with
  | none =>
    rw [Option.toList_none, List.append_nil]
    exact .nothing
  | some e =>
    cases e with
    | sent v =>
      rw [Option.toList_some, after_sent]
      exact .send
    | received r =>
      cases r with
      | value v => exact .receive (receive_after fits) store
      | terminated =>
        rw [Option.toList_some, after_terminated]
        exact .receive (receive_after_of_all (ended rfl)) store
    | closed => exact absurd rfl stays

end Mailbox

namespace Machine

variable {policy : Policy} {m m₁ m' : Machine} {e : Option Event} {es : List Event} {box : Mailbox}

/-- A machine that is told that nothing will come does not go on running. -/
lemma Step.ne_terminated (step : m.Step policy e .running m') :
    e ≠ some (.received .terminated) := by
  rintro rfl
  cases step.exited_of_terminated

/-- A machine makes the same steps over a mailbox that has the values for them. -/
lemma Path.reaches (path : m.Path .store es m') (store : box.policy = .store)
    (fits : Event.receivedIn es <+: box.inbox) :
    Solo.Reaches Mailbox.channel ⟨m, box⟩ ⟨m', box.after es⟩ := by
  induction path with
  | refl =>
    rw [Mailbox.after_nil]
    exact .refl
  | @step es e m₁ m' path step ih =>
    have serves := Mailbox.serves_after store step.ne_closed fits fun told =>
      absurd told step.ne_terminated
    exact .tail (ih (Mailbox.fits_of_append fits)) (Solo.step_eq step serves)

/-- Steps of a machine are made over every mailbox that has the values received in them. -/
lemma Path.exists_step {p : Progress} (path : m.Path .store es m₁) (step : m₁.Step .store e p m')
    (store : box.policy = .store) (provides : box.Provides (es ++ e.toList)) :
    ∃ t, Solo.Reaches Mailbox.channel ⟨m, box⟩ t ∧
      t.step Mailbox.channel = (p, ⟨m', box.after (es ++ e.toList)⟩) := by
  have serves := Mailbox.serves_after store step.ne_closed provides.first fun told => by
    simpa [told] using provides.all (by simp [told])
  exact ⟨_, path.reaches store (Mailbox.fits_of_append provides.first), Solo.step_eq step serves⟩

/-- The run of a machine is its run over a mailbox that has the values for it. -/
lemma Run.execute {r : Except Fault Outcome} (run : m.Run .store es r m')
    (store : box.policy = .store) (provides : box.Provides es) :
    ∃ fuel, Solo.execute Mailbox.channel fuel ⟨m, box⟩ =
      some (r, ⟨m', { box.after es with closes := box.closes + 1 }⟩) := by
  rw [Solo.execute_eq_some_iff]
  cases run with
  | exited path step =>
    obtain ⟨t, reaches, last⟩ := path.exists_step step store provides
    exact ⟨t, reaches, .exited last⟩
  | failed path step =>
    obtain ⟨t, reaches, last⟩ := path.exists_step step store provides
    exact ⟨t, reaches, .failed last⟩

end Machine

end Tandem

import DarwinGpib.Board.Addressing
import DarwinGpib.Board.Courses
import DarwinGpib.Library.Order

/-!
# Leaving serial-poll mode

SPE puts the bus in serial-poll mode, and SPD followed by UNT ends it. The presence probe always
sends the latter. `serialPoll` returns without it when the transport reports that its own command
sequence, which may be on the bus all the same, was not sent.
-/

namespace DarwinGpib

open Interaction

/-- A command sequence with SPE is handed to the transport. -/
def EntersSerialPoll (e : Exchange BoardRequest.Reply) : Prop :=
  ∃ cmds, e.request = .sendCommandBytes cmds ∧ CmdByte.spe ∈ cmds

def LeavesSerialPoll (e : Exchange BoardRequest.Reply) : Prop :=
  e.request = .sendCommandBytes BoardState.teardownCommands

/-- No command sequence with SPE is the last word. -/
abbrev SerialPollLeft (u : BoardTrace) : Prop := FollowedBy EntersSerialPoll LeavesSerialPoll u

/-- The transport reports that it could not send a command sequence with SPE. -/
def PollRefused (u : BoardTrace) : Prop :=
  ∃ e ∈ u, EntersSerialPoll e ∧ callRc e ≠ .ok

theorem entersSerialPoll_serialPollCommands (boardPAD pad : UInt8) (sad : Int8)
    (rc : GPIBTransportError) :
    EntersSerialPoll
      ⟨.sendCommandBytes (BoardState.serialPollCommands boardPAD pad sad), rc⟩ :=
  ⟨_, rfl, by simp [BoardState.serialPollCommands]⟩

theorem not_entersSerialPoll_teardown {rc : GPIBTransportError} :
    ¬ EntersSerialPoll ⟨.sendCommandBytes BoardState.teardownCommands, rc⟩ := by
  rintro ⟨cmds, heq, hspe⟩
  cases heq
  revert hspe
  decide

/-- Whatever went before, SPD and UNT leave serial-poll mode. -/
theorem serialPollLeft_teardown {u : BoardTrace} {rc : GPIBTransportError} :
    SerialPollLeft (u ++ [⟨.sendCommandBytes BoardState.teardownCommands, rc⟩]) :=
  followedBy_append_singleton rfl not_entersSerialPoll_teardown

/-- A serial poll leaves serial-poll mode unless its SPE was refused. -/
theorem serialPollLeft_iff_of_serialPoll {b b' : GPIBBoard} {handle : Int} {u : BoardTrace}
    {r : BoardResult} (h : b.Performs ⟨.serialPoll handle, u, r⟩ b') :
    SerialPollLeft u ↔ ¬ PollRefused u := by
  obtain ⟨st, -, hcourse⟩ := GPIBBoard.busCourse_of_performs rfl h
  cases hcourse with
  | unready => simp [PollRefused]
  | unaddressed hop => cases hop
  | transferred hop => cases hop
  | commanded hop => cases hop
  | @unpolled _ d rc hd hrc =>
      have henters := entersSerialPoll_serialPollCommands b.state.boardPAD d.pad d.sad rc
      constructor
      · intro hleft
        obtain ⟨x, hx, -⟩ := (after_cons_iff.mp hleft).1 henters
        cases hx
      · intro hrefused
        exact absurd ⟨_, List.mem_cons_self, henters, hrc⟩ hrefused
  | @polled _ d rr rc hd =>
      constructor
      · rintro - ⟨e, he, henters, hrc⟩
        rcases List.mem_cons.mp he with rfl | he
        · exact hrc rfl
        rcases List.mem_cons.mp he with rfl | he
        · obtain ⟨cmds, heq, -⟩ := henters
          cases heq
        · obtain rfl := List.mem_singleton.mp he
          exact not_entersSerialPoll_teardown henters
      · rintro -
        exact serialPollLeft_teardown (u := [_, _])

/-- Whether or not an address answers, its probe ends with SPD and UNT. -/
theorem serialPollLeft_of_serialPollProbe {pad : UInt8} {sad : Int8} {s : BoardState}
    {u : BoardTrace} {present : Bool}
    (hrun : Run (BoardState.serialPollProbe anyTransport pad sad s) u present) :
    SerialPollLeft u := by
  rcases run_ite_iff.mp hrun with ⟨-, hdone⟩ | ⟨-, hprobe⟩
  · obtain ⟨rfl, -⟩ := run_pure_iff.mp hdone
    exact after_nil
  · obtain ⟨v, answers, w, rfl, -, hdown⟩ := run_bind_iff.mp hprobe
    obtain ⟨rc, x, rfl, hdone⟩ := run_call_bind_iff.mp hdown
    obtain ⟨rfl, -⟩ := run_pure_iff.mp hdone
    exact serialPollLeft_teardown

/-- A call that may put the bus in serial-poll mode. -/
inductive PollCall where
  | serialPoll (b : GPIBBoard) (handle : Int)
  | serialPollProbe (s : BoardState) (pad : UInt8) (sad : Int8)

/-- What the call may hand to the transport until it returns. -/
def PollCall.Hands : PollCall → BoardTrace → Prop
  | serialPoll b handle, u => ∃ r b', b.Performs ⟨.serialPoll handle, u, r⟩ b'
  | serialPollProbe s pad sad, u =>
      ∃ present, Run (BoardState.serialPollProbe anyTransport pad sad s) u present

/-- Only `serialPoll` gives up when SPE is refused. -/
def PollCall.GivesUp : PollCall → BoardTrace → Prop
  | serialPoll _ _, u => PollRefused u
  | serialPollProbe _ _ _, _ => False

/-- A serial poll ends in serial-poll mode exactly when its SPE was refused, and a presence
probe never does. -/
theorem serial_polls_left {c : PollCall} {u : BoardTrace} (h : c.Hands u) :
    SerialPollLeft u ↔ ¬ c.GivesUp u := by
  cases c with
  | serialPoll b handle =>
      obtain ⟨r, b', hperforms⟩ := h
      exact serialPollLeft_iff_of_serialPoll hperforms
  | serialPollProbe s pad sad =>
      obtain ⟨present, hrun⟩ := h
      exact iff_of_true (serialPollLeft_of_serialPollProbe hrun) not_false

/-- The commands that poll the instrument at 5. -/
def pollAtFive : List UInt8 := BoardState.serialPollCommands 0 5 (-1)

/-- The instrument at 5 gives its status byte, and the bus is out of serial-poll mode again. -/
theorem serial_polls_left_atFive :
    SerialPollLeft
      [⟨.sendCommandBytes pollAtFive, GPIBTransportError.ok⟩,
        ⟨.readData 1 0 0 3000000, (⟨.ok, [0x40], 1, true⟩ : ReadResult)⟩,
        ⟨.sendCommandBytes BoardState.teardownCommands, GPIBTransportError.ok⟩] := by
  have hpoll : boardAtFive.Performs
      ⟨.serialPoll 1,
        [⟨.sendCommandBytes pollAtFive, GPIBTransportError.ok⟩,
          ⟨.readData 1 0 0 3000000, (⟨.ok, [0x40], 1, true⟩ : ReadResult)⟩,
          ⟨.sendCommandBytes BoardState.teardownCommands, GPIBTransportError.ok⟩],
        .polled (0x40, ⟨Ibsta.cmpl ||| Ibsta.rqs, 0⟩)⟩
      { boardAtFive with
        state := { boardAtFive.state with ibsta := Ibsta.cmpl ||| Ibsta.rqs } } :=
    ⟨0, .ask (.ask (.ask (.pure _)))⟩
  have hhands : (PollCall.serialPoll boardAtFive 1).Hands
      [⟨.sendCommandBytes pollAtFive, GPIBTransportError.ok⟩,
        ⟨.readData 1 0 0 3000000, (⟨.ok, [0x40], 1, true⟩ : ReadResult)⟩,
        ⟨.sendCommandBytes BoardState.teardownCommands, GPIBTransportError.ok⟩] :=
    ⟨_, _, hpoll⟩
  refine (serial_polls_left hhands).mpr ?_
  rintro ⟨e, he, henters, hrc⟩
  simp only [List.mem_cons, List.not_mem_nil, or_false] at he
  rcases he with rfl | rfl | rfl
  · exact hrc rfl
  · exact hrc rfl
  · exact hrc rfl

/-- A refused SPE is followed by nothing. -/
theorem serialPoll_stays_in_serial_poll_mode :
    boardAtFive.Performs
        ⟨.serialPoll 1, [⟨.sendCommandBytes pollAtFive, GPIBTransportError.errNoListener⟩],
          .polled (0, ⟨Ibsta.err, Iberr.ebus⟩)⟩
        { boardAtFive with state := { boardAtFive.state with ibsta := Ibsta.err } } ∧
      ¬ SerialPollLeft
        [⟨.sendCommandBytes pollAtFive, GPIBTransportError.errNoListener⟩] := by
  refine ⟨⟨0, .ask (.pure _)⟩, fun hleft => ?_⟩
  have henters := entersSerialPoll_serialPollCommands 0 5 (-1) .errNoListener
  obtain ⟨x, hx, -⟩ := (after_cons_iff.mp hleft).1 henters
  cases hx

end DarwinGpib

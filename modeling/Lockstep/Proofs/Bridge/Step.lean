import Lockstep.Bridge
import Lockstep.Proofs.Bridge.Turn
import Lockstep.Proofs.Channel.Turn

/-! One step of a bridge: it gets the turn, serves it and gives it back.

Getting the turn and serving it are looked at one by one, since a simulator may
do something in between.
-/

set_option autoImplicit false

namespace Lockstep.Bridge

open Channel Effect

variable {σ : Type}

def faulted (b : Bridge) (m : Message) (t : Turn) (e : Error) (s : Space Message) :
    Space Message :=
  s.setContent b.endpoint.region.id ⟨t.output.publishFault e.message, m.toRobot⟩

def answered (b : Bridge) (m : Message) (t : Turn) (s : Space Message) : Space Message :=
  (s.setContent b.endpoint.region.id ⟨t.output, m.toRobot⟩).post b.endpoint.own.id

theorem count_answered (b : Bridge) (m : Message) (t : Turn) (s : Space Message) (id : Nat) :
    (b.answered m t s).count id = (s.post b.endpoint.own.id).count id := rfl

theorem content?_faulted {b : Bridge} {s : Space Message} {id : Nat} {old : Message}
    (region : b.endpoint.region.id = id) (found : s.content? id = some old) (m : Message) (t : Turn)
    (e : Error) : (b.faulted m t e s).content? id =
      some ⟨t.output.publishFault e.message, m.toRobot⟩ := by
  subst region
  exact Space.content?_setContent found _

theorem content?_answered {b : Bridge} {s : Space Message} {id : Nat} {old : Message}
    (region : b.endpoint.region.id = id) (found : s.content? id = some old) (m : Message)
    (t : Turn) : (b.answered m t s).content? id = some ⟨t.output, m.toRobot⟩ := by
  subst region
  exact Space.content?_setContent found _

theorem serve_of_error {b : Bridge} {m : Message} {e : Error} {t : Turn}
    (served : b.program.serve m = (.error e, t)) (w : World Message σ) :
    ∃ journal, b.serve m w = ((.error e, { b with program := t.program }),
      ⟨b.faulted m t e w.space, w.peer, journal⟩) := by
  unfold serve
  rw [served]
  exact ⟨_, rfl⟩

theorem serve_of_ok {b : Bridge} {m : Message} {mode : Mode} {t : Turn}
    (served : b.program.serve m = (.ok mode, t)) (active : b.endpoint.phase = .active)
    {w : World Message σ} (room : w.space.count b.endpoint.own.id < Space.maxCount) :
    ∃ journal, b.serve m w = ((.ok mode,
      ⟨b.endpoint.gaveTurn, { t.program with stats := t.program.stats.record mode .zero }⟩),
      ⟨b.answered m t w.space, w.peer, journal⟩) := by
  unfold serve
  rw [served]
  simp only [World.setSpace]
  rw [b.endpoint.finish_of_active _ active (by simpa using room)]
  exact ⟨_, rfl⟩

theorem serve_noted (b : Bridge) (m : Message) (s : Space Message) (peer : σ)
    (before after : Journal) :
    (b.serve m ⟨s, peer, before⟩).1 = (b.serve m ⟨s, peer, after⟩).1 ∧
      (b.serve m ⟨s, peer, before⟩).2.space = (b.serve m ⟨s, peer, after⟩).2.space := by
  unfold serve
  rcases b.program.serve m with ⟨e | mode, turn⟩
  · exact ⟨rfl, rfl⟩
  · dsimp only [World.setSpace]
    split
    · exact ⟨rfl, rfl⟩
    · exact ⟨rfl, rfl⟩

end Lockstep.Bridge
